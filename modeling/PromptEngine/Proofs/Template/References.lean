/-
  PromptEngine.Proofs.Template.References — where the variables of a template are referred to.

  A reference is a block of its own, a positional argument, or the value of a named argument
  (`Template.RefersAt`).  Each of them has a place in the source.

  Some references of a text and some of what follows it are references of the whole
  (`Located.append`), so it is enough to look at one piece of a template at a time.  In a call the
  references are the variables among its tokens, in the order of the tokens (`MadeOf.variables`):
  this is where positional arguments come before named ones.

  Main facts: the references of a template, listed block by block, stand in its source one behind
  the other (`Template.located_of_parse`), and no two of them begin at the same byte
  (`Template.RefersAt.unique`).
-/
import PromptEngine.Proofs.Template.Places
import PromptEngine.Proofs.Template.Variables

namespace PromptEngine

/-! ## §1. References. -/

/-- The template refers to the variable at this place: by a block, by a positional argument, or by
the value of a named one.  The place of a block is that of its region, braces included. -/
inductive Template.RefersAt (template : Template) (name : String) : Span → Prop
  | block {block : Spanned Block} (hblock : block ∈ template.blocks)
      (hname : block.node = .variable name) : RefersAt template name block.span
  | positional {block : Spanned Block} {call : Invocation} {operand : Spanned Operand}
      (hblock : block ∈ template.blocks) (hcall : block.node = .invocation call)
      (hoperand : operand ∈ call.positional) (hname : operand.node = .variable name) :
      RefersAt template name operand.span
  | named {block : Spanned Block} {call : Invocation} {argument : Spanned NamedOperand}
      (hblock : block ∈ template.blocks) (hcall : block.node = .invocation call)
      (hargument : argument ∈ call.named.values)
      (hname : argument.node.operand.node = .variable name) :
      RefersAt template name argument.node.operand.span
  | namedBlock {block : Spanned Block} {argument : NamedOperand}
      (hblock : block ∈ template.blocks) (hnode : block.node = .namedArgument argument)
      (hname : argument.operand.node = .variable name) :
      RefersAt template name argument.operand.span

/-- A reference is written as a dollar sign and the name: alone as an argument, and between blanks
and braces as a block. -/
inductive WritesReference (name : String) : List Char → Prop
  | argument : WritesReference name ('$' :: name.toList)
  | block {left right : List Char} (hleft : ∀ c ∈ left, isBlank c = true)
      (hright : ∀ c ∈ right, isBlank c = true) :
      WritesReference name (Piece.region (left ++ '$' :: name.toList ++ right)).raw

/-- The references stand in a text that begins at byte `start`: each of them at its own characters,
and one behind the other. -/
structure Located (start : Nat) (text : List Char) (references : List (Spanned String)) :
    Prop where
  written : ∀ reference ∈ references, ∃ part,
    Occupies start text reference.span part ∧ WritesReference reference.node part
  ordered : references.Pairwise fun a b => a.span.stop ≤ b.span.start

/-! ## §2. Rows of references. -/

theorem WritesReference.ne_nil {name : String} {part : List Char} (h : WritesReference name part) :
    part ≠ [] := by
  cases h <;> exact List.cons_ne_nil _ _

namespace Occupies

variable {start : Nat} {text part : List Char} {span : Span}

theorem stop_le (h : Occupies start text span part) : span.stop ≤ start + byteSize text := by
  obtain ⟨front, back, rfl, rfl⟩ := h
  show start + byteSize (front ++ part) ≤ start + byteSize (front ++ part ++ back)
  rw [byteSize_append (front ++ part)]
  omega

/-- A place in a front of a text is a place in the whole. -/
theorem append_right (h : Occupies start text span part) (more : List Char) :
    Occupies start (text ++ more) span part := by
  obtain ⟨front, back, rfl, rfl⟩ := h
  exact ⟨front, back ++ more, by simp, rfl⟩

/-- The whole text stands at all of its bytes. -/
theorem whole : Occupies start text ⟨start, start + byteSize text⟩ text :=
  ⟨[], [], by simp, rfl⟩

theorem lt (h : Occupies start text span part) (hpart : part ≠ []) : span.start < span.stop := by
  obtain ⟨front, back, -, rfl⟩ := h
  have hpos := byteSize_pos hpart
  show start + byteSize front < start + byteSize (front ++ part)
  rw [byteSize_append]
  omega

end Occupies

namespace Located

variable {start : Nat} {text : List Char} {references : List (Spanned String)}

theorem nil : Located start text [] where
  written := List.forall_mem_nil _
  ordered := .nil

/-- A text that is a reference is one at all of its bytes. -/
theorem whole {name : String} (h : WritesReference name text) :
    Located start text [⟨name, ⟨start, start + byteSize text⟩⟩] where
  written := List.forall_mem_singleton.mpr ⟨text, .whole, h⟩
  ordered := List.pairwise_singleton ..

/-- The references of a text stand before those of what follows it. -/
theorem append {more : List Char} {later : List (Spanned String)}
    (h : Located start text references) (hlater : Located (start + byteSize text) more later) :
    Located start (text ++ more) (references ++ later) where
  written := by
    refine List.forall_mem_append.mpr ⟨?_, ?_⟩
    · intro reference hmem
      obtain ⟨part, hpart, hwrites⟩ := h.written reference hmem
      exact ⟨part, hpart.append_right more, hwrites⟩
    · intro reference hmem
      obtain ⟨part, hpart, hwrites⟩ := hlater.written reference hmem
      exact ⟨part, hpart.append, hwrites⟩
  ordered := by
    refine List.pairwise_append.mpr ⟨h.ordered, hlater.ordered, ?_⟩
    intro a ha b hb
    obtain ⟨_, hfirst, -⟩ := h.written a ha
    obtain ⟨_, hsecond, -⟩ := hlater.written b hb
    exact hfirst.stop_le.trans hsecond.start_le

/-- References stand where they do also with something around their text. -/
theorem enclosed {front : List Char} (h : Located (start + byteSize front) text references)
    (back : List Char) : Located start (front ++ text ++ back) references := by
  have hback : Located (start + byteSize (front ++ text)) back [] := nil
  simpa using (nil.append h).append hback

theorem lt (h : Located start text references) :
    ∀ reference ∈ references, reference.span.start < reference.span.stop := by
  intro reference hmem
  obtain ⟨_, hpart, hwrites⟩ := h.written reference hmem
  exact hpart.lt hwrites.ne_nil

/-- The references begin one behind the other. -/
theorem ascending (h : Located start text references) :
    references.Pairwise fun a b => a.span.start < b.span.start := by
  refine h.ordered.imp_of_mem ?_
  intro a b ha _ hab
  exact (h.lt a ha).trans_le hab

/-- References that begin at the same byte are one. -/
theorem eq_of_start_eq (h : Located start text references) {a b : Spanned String}
    (ha : a ∈ references) (hb : b ∈ references) (hstart : a.span.start = b.span.start) : a = b := by
  have hsymm : Std.Symm fun x y : Spanned String => x.span.start ≠ y.span.start :=
    ⟨fun _ _ hne => hne.symm⟩
  have hdiffer : references.Pairwise fun x y => x.span.start ≠ y.span.start :=
    h.ascending.imp Nat.ne_of_lt
  by_contra hne
  exact hdiffer.forall ha hb hne hstart

end Located

/-! ## §3. The references in a block. -/

/-- The variable that a token stands for, at the place of the token. -/
def Spanned.tokenReference? (token : Spanned Token) : Option (Spanned String) :=
  match token.node with
  | .variable name => some ⟨name, token.span⟩
  | _ => none

/-- The variable that an operand reads, at the place of the operand. -/
def Spanned.reference? (operand : Spanned Operand) : Option (Spanned String) :=
  operand.node.read?.map (⟨·, operand.span⟩)

/-- The reference in a part of an invocation: arguments can have one, the function has none. -/
def Invocation.Part.reference? : Invocation.Part → Option (Spanned String)
  | .function _ => none
  | .positional operand => operand.reference?
  | .named argument => argument.node.operand.reference?

/-- The references in a block that stands at `place`. -/
def Block.referencesAt (place : Span) : Block → List (Spanned String)
  | .text _ | .value _ => []
  | .variable name => [⟨name, place⟩]
  | .namedArgument argument => argument.operand.reference?.toList
  | .invocation call => call.parts.filterMap Invocation.Part.reference?

theorem Spanned.tokenReference?_eq_some_iff {token : Spanned Token} {reference : Spanned String} :
    token.tokenReference? = some reference ↔
      token = ⟨.variable reference.node, reference.span⟩ := by
  obtain ⟨node, span⟩ := token
  obtain ⟨name, place⟩ := reference
  cases node <;> simp [Spanned.tokenReference?]

theorem Spanned.reference?_eq_some_iff {operand : Spanned Operand} {reference : Spanned String} :
    operand.reference? = some reference ↔
      operand = ⟨.variable reference.node, reference.span⟩ := by
  obtain ⟨node, span⟩ := operand
  obtain ⟨name, place⟩ := reference
  cases node <;> simp [Spanned.reference?, Operand.read?]

/-- The references in an invocation are the operands of its arguments that read variables. -/
theorem Invocation.mem_references_iff {call : Invocation} {reference : Spanned String} :
    reference ∈ call.parts.filterMap Part.reference? ↔
      (∃ operand ∈ call.positional, operand = ⟨.variable reference.node, reference.span⟩) ∨
      ∃ argument ∈ call.named.values,
        argument.node.operand = ⟨.variable reference.node, reference.span⟩ := by
  unfold parts
  rw [List.filterMap_cons_none rfl, List.filterMap_append, List.mem_append, List.filterMap_map,
    List.filterMap_map, List.mem_filterMap, List.mem_filterMap]
  show (∃ operand ∈ call.positional, operand.reference? = some reference) ∨
    (∃ argument ∈ call.named.values, argument.node.operand.reference? = some reference) ↔ _
  simp only [Spanned.reference?_eq_some_iff]

/-- The names of the references are the variables of the block. -/
theorem Block.map_node_referencesAt (place : Span) (block : Block) :
    (block.referencesAt place).map (·.node) = block.variableNames := by
  have hread : ∀ operand : Spanned Operand,
      operand.reference?.map (·.node) = operand.node.read? := by
    intro operand
    obtain ⟨node, span⟩ := operand
    cases node <;> rfl
  cases block with
  | text _ => rfl
  | value _ => rfl
  | «variable» _ => rfl
  | namedArgument argument =>
      show argument.operand.reference?.toList.map (·.node) = argument.operand.node.read?.toList
      rw [← hread, Option.toList_map]
  | invocation call =>
      simp [referencesAt, variableNames, Invocation.parts, Invocation.operands,
        Invocation.Part.reference?, List.map_filterMap, List.filterMap_map, hread]

/-! ## §4. The references in code. -/

namespace Invocation

theorem Part.MadeOf.variables {part : Part} {group : List (Spanned Token)} (h : part.MadeOf group) :
    group.filterMap Spanned.tokenReference? = part.reference?.toList := by
  cases h with
  | word name span => rfl
  | member collection name first dot last => rfl
  | positional operand =>
      obtain ⟨node, span⟩ := operand
      cases node <;> rfl
  | named name equals operand =>
      -- The name in front of the equals sign is a word and no variable.
      obtain ⟨node, span⟩ := operand
      cases node <;> rfl

/-- **The references of an invocation are the variables among its tokens**, in their order. -/
theorem MadeOf.variables {parts : List Part} {tokens : List (Spanned Token)}
    (h : MadeOf parts tokens) :
    tokens.filterMap Spanned.tokenReference? = parts.filterMap Part.reference? := by
  induction h with
  | nil => rfl
  | @cons part parts group tokens first _ ih =>
      rw [List.filterMap_append, ih, first.variables]
      cases hpart : part.reference? <;> simp [hpart]

end Invocation

/-- The characters of a variable are a dollar sign and its name. -/
theorem Token.Lexeme.eq_variable {name : String} {part : List Char}
    (h : Token.Lexeme (.variable name) part) : part = '$' :: name.toList := by
  generalize hnode : Token.variable name = node at h
  cases h with
  | «variable» _ =>
      rw [Token.variable.inj hnode, String.toList_ofList]
  | _ => cases hnode

namespace Laid

variable {start : Nat} {text : List Char} {tokens : List (Spanned Token)}

/-- The variables among tokens that are laid out in a text stand in it as references. -/
theorem located (h : Laid start text tokens) :
    Located start text (tokens.filterMap Spanned.tokenReference?) where
  written := by
    intro reference hmem
    obtain ⟨token, htoken, hread⟩ := List.mem_filterMap.mp hmem
    obtain rfl := Spanned.tokenReference?_eq_some_iff.mp hread
    obtain ⟨part, hpart, hlexeme⟩ := h.lexeme _ htoken
    obtain rfl := hlexeme.eq_variable
    exact ⟨_, hpart, .argument⟩
  ordered := by
    refine h.ordered.filterMap Spanned.tokenReference? ?_
    intro a b hab x hx y hy
    obtain rfl := Spanned.tokenReference?_eq_some_iff.mp hx
    obtain rfl := Spanned.tokenReference?_eq_some_iff.mp hy
    exact hab

/-- A text with one token is this token between blanks. -/
theorem exists_blanks {token : Spanned Token} (h : Laid start text [token]) :
    ∃ left part right, text = left ++ part ++ right ∧ token.node.Lexeme part ∧
      (∀ c ∈ left, isBlank c = true) ∧ ∀ c ∈ right, isBlank c = true := by
  obtain ⟨part, hpart, hlexeme⟩ := h.lexeme token List.mem_cons_self
  obtain ⟨left, right, rfl, hspan⟩ := hpart
  refine ⟨left, part, right, rfl, hlexeme, ?_, ?_⟩
  · intro c hc
    obtain ⟨before, after, rfl⟩ := List.append_of_mem hc
    apply h.blank before c (after ++ part ++ right)
    · simp
    -- A character in front of the token is not covered by it.
    · refine List.forall_mem_singleton.mpr fun hcovers => ?_
      have hstart := hcovers.1
      have hpos := c.utf8Size_pos
      rw [hspan] at hstart
      simp only [byteSize_append, byteSize_cons] at hstart
      omega
  · intro c hc
    obtain ⟨before, after, rfl⟩ := List.append_of_mem hc
    apply h.blank (left ++ part ++ before) c after
    · simp
    · refine List.forall_mem_singleton.mpr fun hcovers => ?_
      have hstop := hcovers.2
      rw [hspan] at hstop
      simp only [byteSize_append] at hstop
      omega

end Laid

namespace Code

/-- The references in an invocation stand in its code. -/
theorem located_of_parse {code : String} {offset : Nat} {call : Invocation}
    (h : Code.parse code offset = .ok (.invocation call)) :
    Located offset code.toList (call.parts.filterMap Invocation.Part.reference?) := by
  obtain ⟨tokens, hlaid, hmade⟩ := parts_of_parse h
  rw [← hmade.variables]
  exact hlaid.located

/-- Code that is read as a variable is its name behind a dollar sign, and blanks. -/
theorem exists_blanks_of_parse {code : String} {offset : Nat} {name : String}
    (h : Code.parse code offset = .ok (.variable name)) :
    ∃ left right, code.toList = left ++ '$' :: name.toList ++ right ∧
      (∀ c ∈ left, isBlank c = true) ∧ ∀ c ∈ right, isBlank c = true := by
  obtain ⟨tokens, content, hlex, hread, hcheck⟩ := parse_eq_ok_iff.mp h
  have hnodes : tokens.map (·.node) = [.variable name] := by
    have hreads := reads_of_check hcheck
    rw [← tokens_of_read _ tokens content hread] at hreads
    generalize tokens.map (·.node) = nodes at hreads
    cases hreads with
    | «variable» _ => rfl
  obtain ⟨token, rfl, hnode⟩ := List.map_eq_singleton_iff.mp hnodes
  obtain ⟨left, part, right, hcode, hlexeme, hleft, hright⟩ :=
    (lexFrom_eq_ok_iff_laid.mp hlex).exists_blanks
  rw [hnode] at hlexeme
  obtain rfl := hlexeme.eq_variable
  exact ⟨left, right, hcode, hleft, hright⟩

end Code

/-! ## §5. The references of a template. -/

/-- The references in a piece stand at its characters. -/
theorem Piece.located_block {start : Nat} {piece : Piece} {block : Block}
    (h : piece.block start = .ok block) :
    Located start piece.raw (block.referencesAt ⟨start, start + byteSize piece.raw⟩) := by
  cases piece with
  | plain text =>
      cases h
      exact .nil
  | region interior =>
      unfold Piece.block at h
      dsimp only at h
      split at h
      · cases h
        exact .nil
      · obtain ⟨blanks, hblanks, hinterior⟩ := eq_append_trimBlanks interior
        have hlead : ∀ c ∈ interior.takeWhile isBlank, isBlank c = true := fun c hc =>
          List.mem_takeWhile_imp hc
        cases block with
        | text _ => exact .nil
        | value _ => exact .nil
        | «variable» name =>
            -- The blanks that were trimmed and those beside the name are taken together.
            obtain ⟨left, right, hcode, hleft, hright⟩ := Code.exists_blanks_of_parse h
            rw [String.toList_ofList] at hcode
            have hwritten : interior = (interior.takeWhile isBlank ++ left)
                ++ '$' :: name.toList ++ (right ++ blanks) := by
              rw [hcode] at hinterior
              simpa using hinterior
            have hwrites : WritesReference name (Piece.region interior).raw := by
              rw [hwritten]
              exact .block (List.forall_mem_append.mpr ⟨hlead, hleft⟩)
                (List.forall_mem_append.mpr ⟨hright, hblanks⟩)
            exact .whole hwrites
        | invocation call =>
            have hlocated := Code.located_of_parse h
            have hraw : (Piece.region interior).raw = ('{' :: '{' :: interior.takeWhile isBlank)
                ++ trimBlanks interior ++ (blanks ++ ['}', '}']) := by
              unfold Piece.raw
              dsimp only
              conv_lhs => rw [hinterior]
              simp
            have hstart : start + 2 + byteSize (interior.takeWhile isBlank)
                = start + byteSize ('{' :: '{' :: interior.takeWhile isBlank) := by
              show _ = start + (1 + (1 + byteSize (interior.takeWhile isBlank)))
              omega
            rw [String.toList_ofList, hstart] at hlocated
            rw [hraw]
            exact hlocated.enclosed _
        | namedArgument _ => exact absurd rfl (Code.kind_of_parse h).2

/-- **The references of a row of blocks stand one behind the other** in the text of the row. -/
theorem located_blocksFrom {start : Nat} {pieces : List Piece} {blocks : List (Spanned Block)}
    (h : blocksFrom start pieces = .ok blocks) :
    Located start (pieces.flatMap Piece.raw)
      (blocks.flatMap fun block => block.node.referencesAt block.span) := by
  induction pieces generalizing start blocks with
  | nil =>
      cases h
      exact .nil
  | cons piece pieces ih =>
      obtain ⟨block, more, hblock, hmore, rfl⟩ := blocksFrom_cons_eq_ok_iff.mp h
      rw [List.flatMap_cons, List.flatMap_cons]
      exact (Piece.located_block hblock).append (ih hmore)

namespace Template

variable {template : Template}

/-- The references of a template with their places, block by block. -/
def placedReferences (template : Template) : List (Spanned String) :=
  template.blocks.flatMap fun block => block.node.referencesAt block.span

theorem map_node_placedReferences (template : Template) :
    template.placedReferences.map (·.node) = template.references := by
  unfold placedReferences references
  rw [List.map_flatMap]
  congr 1
  funext block
  exact block.node.map_node_referencesAt block.span

/-- The references that are listed are those of the template. -/
theorem mem_placedReferences_iff {name : String} {place : Span} :
    ⟨name, place⟩ ∈ template.placedReferences ↔ template.RefersAt name place := by
  constructor
  · intro h
    obtain ⟨block, hblock, hmem⟩ := List.mem_flatMap.mp h
    cases hnode : block.node with
    | text _ =>
        rw [hnode] at hmem
        contradiction
    | value _ =>
        rw [hnode] at hmem
        contradiction
    | «variable» other =>
        rw [hnode] at hmem
        obtain ⟨rfl, rfl⟩ := Spanned.mk.inj (List.mem_singleton.mp hmem)
        exact .block hblock hnode
    | namedArgument argument =>
        rw [hnode] at hmem
        have hread := Spanned.reference?_eq_some_iff.mp (Option.mem_toList.mp hmem)
        have hrefers : template.RefersAt name argument.operand.span :=
          .namedBlock hblock hnode (by rw [hread])
        rwa [hread] at hrefers
    | invocation call =>
        rw [hnode] at hmem
        obtain ⟨operand, hoperand, heq⟩ | ⟨argument, hargument, heq⟩ :=
          Invocation.mem_references_iff.mp hmem
        · have hrefers : template.RefersAt name operand.span :=
            .positional hblock hnode hoperand (by rw [heq])
          rwa [heq] at hrefers
        · have hrefers : template.RefersAt name argument.node.operand.span :=
            .named hblock hnode hargument (by rw [heq])
          rwa [heq] at hrefers
  · intro h
    cases h with
    | block hblock hname =>
        refine List.mem_flatMap.mpr ⟨_, hblock, ?_⟩
        rw [hname]
        exact List.mem_singleton_self _
    | positional hblock hcall hoperand hname =>
        refine List.mem_flatMap.mpr ⟨_, hblock, ?_⟩
        rw [hcall]
        exact Invocation.mem_references_iff.mpr (.inl ⟨_, hoperand, by rw [← hname]⟩)
    | named hblock hcall hargument hname =>
        refine List.mem_flatMap.mpr ⟨_, hblock, ?_⟩
        rw [hcall]
        exact Invocation.mem_references_iff.mpr (.inr ⟨_, hargument, by rw [← hname]⟩)
    | namedBlock hblock hnode hname =>
        refine List.mem_flatMap.mpr ⟨_, hblock, ?_⟩
        rw [hnode]
        exact Option.mem_toList.mpr (Spanned.reference?_eq_some_iff.mpr (by rw [← hname]))

/-- **The references of a template stand in its source**, one behind the other. -/
theorem located_of_parse {source : String} (h : parse source = .ok template) :
    Located 0 source.toList template.placedReferences := by
  unfold parse at h
  cases hblocks : blocksFrom 0 (Piece.cut source.toList) with
  | error e => simp [hblocks, bind, Except.bind] at h
  | ok blocks =>
      simp only [hblocks, bind, Except.bind, pure, Except.pure, Except.ok.injEq] at h
      subst h
      have hlocated := located_blocksFrom hblocks
      rwa [Piece.flatMap_raw_cut] at hlocated

/-- **References that begin at the same byte are one.** -/
theorem RefersAt.unique {source : String} (h : parse source = .ok template) {a b : String}
    {p q : Span} (ha : template.RefersAt a p) (hb : template.RefersAt b q)
    (hstart : p.start = q.start) : a = b ∧ p = q :=
  Spanned.mk.inj <| (located_of_parse h).eq_of_start_eq (mem_placedReferences_iff.mpr ha)
    (mem_placedReferences_iff.mpr hb) hstart

end Template

end PromptEngine
