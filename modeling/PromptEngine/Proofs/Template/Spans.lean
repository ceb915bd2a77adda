/-
  PromptEngine.Proofs.Template.Spans — the bytes of each part are what the part was read from.

  Some neighbouring tokens of a text, cut out from the first of them to the last, are a text of
  their own, and just these tokens are laid out in it (`Laid.neighbours`).  The parts of an
  invocation are made of neighbouring tokens, and so each of them can be read from its own bytes
  alone; since tokens follow one another, so do the parts (`Code.placed_of_parse`).

  A template fails at the first region that fails.  The code of a region stands between its braces,
  and so does the error.  This code has no blanks at its end, so the error points forward
  (`Template.blames_of_error`).

  Main result: `Code.parse_places`.
-/
import PromptEngine.Proofs.Template.Places
import PromptEngine.Proofs.Template.Regions
import PromptEngine.Proofs.Template.Shift

namespace PromptEngine

/-! ## §1. What holds of an invocation and of an error. -/

/-- The characters at a span of a text that begins at byte `start`. -/
def sliceAt (start : Nat) (text : List Char) (span : Span) : List Char :=
  slice text ⟨span.start - start, span.stop - start⟩

/-- The invocation stands in the code, which begins at byte `start`, as its spans say. -/
structure Invocation.Placed (start : Nat) (code : List Char) (call : Invocation) : Prop where
  /-- A part ends before the later ones begin. -/
  ordered : call.parts.Pairwise fun a b => a.span.stop ≤ b.span.start
  /-- The characters at a part are read as the tokens of the part. -/
  reads : ∀ part ∈ call.parts, Lexes 0 none (sliceAt start code part.span) part.tokens
  /-- In a named argument the name stands before the value. -/
  nested : ∀ argument ∈ call.named.values, argument.span.start ≤ argument.node.name.span.start ∧
    argument.node.name.span.stop ≤ argument.node.operand.span.start ∧
    argument.node.operand.span.stop ≤ argument.span.stop
  names : ∀ argument ∈ call.named.values,
    Lexes 0 none (sliceAt start code argument.node.name.span) [.word argument.node.name.node]
  values : ∀ argument ∈ call.named.values,
    Lexes 0 none (sliceAt start code argument.node.operand.span) [argument.node.operand.node.token]

namespace Region

/-- The error of a template is the error of this region: the ones before it are blank or can be
read, and the error points between the braces of this one. -/
structure Blames (source : List Char) (e : SyntaxError) (earlier : List Span) (region : Span) :
    Prop where
  earlier : ∀ other ∈ earlier, Blank source other ∨ ∃ block, readInterior source other = .ok block
  code : ¬ Blank source region
  error : readInterior source region = .error e
  between : e.span.Ends fun pos => region.start + 2 ≤ pos ∧ pos ≤ region.stop - 2
  forward : e.span.start ≤ e.span.stop

end Region

/-! ## §2. Some of the tokens of a text. -/

/-- A place that ends in a front of the text is a place of this front. -/
theorem Occupies.front_of_append {start : Nat} {text more part : List Char} {span : Span}
    (h : Occupies start (text ++ more) span part) (hle : span.stop ≤ start + byteSize text) :
    Occupies start text span part := by
  obtain ⟨before, back, htext, rfl⟩ := h
  have hsize : byteSize (before ++ part) ≤ byteSize text := by
    have hle' : start + byteSize (before ++ part) ≤ start + byteSize text := hle
    omega
  obtain ⟨between, rfl, -⟩ := exists_append_of_byteSize_le htext.symm hsize
  exact ⟨before, between, rfl, rfl⟩

namespace Laid

variable {start : Nat} {text : List Char} {tokens : List (Spanned Token)}

/-- Where the end of the text and the tokens in it are left out, the others are laid out in the
front. -/
theorem front_of_append {more : List Char} {after : List (Spanned Token)}
    (h : Laid start (text ++ more) (tokens ++ after))
    (htokens : ∀ token ∈ tokens, token.span.stop ≤ start + byteSize text)
    (hafter : ∀ token ∈ after, start + byteSize text ≤ token.span.start) :
    Laid start text tokens where
  lexeme token htoken := by
    obtain ⟨part, hpart, hlexeme⟩ := h.lexeme token (List.mem_append_left _ htoken)
    exact ⟨part, hpart.front_of_append (htokens token htoken), hlexeme⟩
  nonempty token htoken := h.nonempty token (List.mem_append_left _ htoken)
  ordered := (List.pairwise_append.mp h.ordered).1
  blank between c back htext hfree := by
    apply h.blank between c (back ++ more)
    · rw [htext, List.append_assoc]
      rfl
    · intro token htoken
      rcases List.mem_append.mp htoken with hleft | hright
      · exact hfree token hleft
      · -- The character stands before all that is left out.
        have hstart := hafter token hright
        have hsize : byteSize between < byteSize text := by
          have hpos := c.utf8Size_pos
          rw [htext, byteSize_append, byteSize_cons]
          omega
        intro hcovers
        have hpos := hcovers.1
        omega
  apart := h.apart.left_of_append

/-- From a token on, the tokens are laid out in the text from there on. -/
theorem from_first {before more : List (Spanned Token)} {first : Spanned Token}
    (h : Laid start text (before ++ first :: more)) :
    ∃ front rest, text = front ++ rest ∧ first.span.start = start + byteSize front ∧
      Laid first.span.start rest (first :: more) := by
  have hmem : first ∈ before ++ first :: more := List.mem_append_right _ List.mem_cons_self
  obtain ⟨front, rest, rfl, hstart⟩ := isPlace_iff.mp (h.ends first hmem).1
  refine ⟨front, rest, rfl, hstart, ?_⟩
  obtain ⟨-, hmore, hbefore⟩ := List.pairwise_append.mp h.ordered
  rw [hstart]
  apply h.of_append
  · intro token htoken
    rw [← hstart]
    exact hbefore token htoken first List.mem_cons_self
  · rw [← hstart]
    refine List.forall_mem_cons.mpr ⟨Nat.le_refl _, ?_⟩
    intro token htoken
    have hfirst := h.nonempty first hmem
    have hle := (List.pairwise_cons.mp hmore).1 token htoken
    omega

/-- Up to a token, the tokens are laid out in the text up to there. -/
theorem to_last {init after : List (Spanned Token)} {last : Spanned Token}
    (h : Laid start text (init ++ [last] ++ after)) :
    ∃ front back, text = front ++ back ∧ last.span.stop = start + byteSize front ∧
      Laid start front (init ++ [last]) := by
  have hmem : last ∈ init ++ [last] ++ after := by simp
  obtain ⟨front, back, rfl, hstop⟩ := isPlace_iff.mp (h.ends last hmem).2
  refine ⟨front, back, rfl, hstop, ?_⟩
  obtain ⟨hinit, -, hafter⟩ := List.pairwise_append.mp h.ordered
  apply h.front_of_append
  · rw [← hstop]
    refine List.forall_mem_append.mpr ⟨?_, List.forall_mem_singleton.mpr (Nat.le_refl _)⟩
    intro token htoken
    have hlast := h.nonempty last hmem
    have hle := (List.pairwise_append.mp hinit).2.2 token htoken last List.mem_cons_self
    omega
  · intro token htoken
    rw [← hstop]
    exact hafter last (by simp) token htoken

/-- **Neighbouring tokens are laid out in what is cut out around them.** -/
theorem neighbours {group : List (Spanned Token)} {first last : Spanned Token}
    (h : Laid start text tokens) (hgroup : group <:+: tokens) (hfirst : first ∈ group.head?)
    (hlast : last ∈ group.getLast?) :
    Laid first.span.start (sliceAt start text (first.span.through last.span)) group := by
  obtain ⟨before, after, rfl⟩ := hgroup
  obtain ⟨more, hmore⟩ := List.head?_eq_some_iff.mp hfirst
  obtain ⟨init, hinit⟩ := List.getLast?_eq_some_iff.mp hlast
  -- The text is cut where the first token begins, and the rest where the last one ends.
  rw [List.append_assoc, hmore, List.cons_append] at h
  obtain ⟨front, rest, rfl, hstart, hrest⟩ := h.from_first
  rw [← List.cons_append, ← hmore, hinit] at hrest
  obtain ⟨part, back, rfl, hstop, hpart⟩ := hrest.to_last
  have hslice : sliceAt start (front ++ (part ++ back))
      (first.span.through last.span) = part := by
    have hspan : (⟨first.span.start - start, last.span.stop - start⟩ : Span)
        = ⟨byteSize front, byteSize front + byteSize part⟩ := by
      rw [hstop, hstart]
      congr 1 <;> omega
    show slice (front ++ (part ++ back)) ⟨first.span.start - start, last.span.stop - start⟩ = part
    rw [hspan, ← List.append_assoc, slice_append]
  rw [hslice, hinit]
  exact hpart

/-- The tokens of a text are read from it wherever it begins. -/
theorem lexes (h : Laid start text tokens) : Lexes 0 none text (tokens.map (·.node)) := by
  have hlex := lexFrom_eq_ok_iff_laid.mpr h
  have hshift := lexFrom_shift start 0 none text
  rw [Nat.zero_add, Option.map_none, hlex] at hshift
  cases hzero : lexFrom 0 none text with
  | error e =>
      rw [hzero] at hshift
      cases hshift
  | ok own =>
      rw [hzero] at hshift
      obtain rfl := Except.ok.inj hshift
      exact ⟨own, hzero, by simp [Spanned.shift, Function.comp_def]⟩

end Laid

/-! ## §3. The parts of an invocation. -/

namespace Invocation

theorem Part.MadeOf.tokens_eq {part : Part} {group : List (Spanned Token)}
    (h : part.MadeOf group) : group.map (·.node) = part.tokens := by
  cases h <;> rfl

/-- A part reaches from the first of its tokens to the last. -/
theorem Part.MadeOf.span_eq {part : Part} {group : List (Spanned Token)} (h : part.MadeOf group) :
    ∃ first ∈ group.head?, ∃ last ∈ group.getLast?, part.span = first.span.through last.span := by
  cases h with
  | word name span => exact ⟨_, rfl, _, rfl, rfl⟩
  | member collection name first dot last => exact ⟨_, rfl, _, rfl, rfl⟩
  | positional operand => exact ⟨_, rfl, _, rfl, rfl⟩
  | named name equals operand => exact ⟨_, rfl, _, rfl, rfl⟩

/-- **Parts follow one another as their tokens do.** -/
theorem MadeOf.ordered {parts : List Part} {tokens : List (Spanned Token)}
    (h : MadeOf parts tokens)
    (htokens : tokens.Pairwise fun a b => a.span.stop ≤ b.span.start) :
    parts.Pairwise fun a b => a.span.stop ≤ b.span.start := by
  induction h with
  | nil => exact .nil
  | @cons part parts group tokens first more ih =>
      obtain ⟨-, hrest, hbefore⟩ := List.pairwise_append.mp htokens
      refine List.pairwise_cons.mpr ⟨?_, ih hrest⟩
      intro other hother
      -- The last token of this part stands before the first one of the other.
      obtain ⟨later, hlater, hwithin⟩ := more.exists_infix other hother
      obtain ⟨_, -, last, hlast, hspan⟩ := first.span_eq
      obtain ⟨head, hhead, _, -, hspan'⟩ := hlater.span_eq
      rw [hspan, hspan']
      exact hbefore last (List.mem_of_getLast? hlast) head
        (hwithin.subset (List.mem_of_mem_head? hhead))

/-- A named argument is a word, an equals sign and a value. -/
theorem MadeOf.named {parts : List Part} {tokens : List (Spanned Token)}
    (h : MadeOf parts tokens) {argument : Spanned NamedOperand}
    (hargument : .named argument ∈ parts) :
    ∃ equals, [⟨.word argument.node.name.node, argument.node.name.span⟩, ⟨.equals, equals⟩,
        ⟨argument.node.operand.node.token, argument.node.operand.span⟩] <:+: tokens ∧
      argument.span = argument.node.name.span.through argument.node.operand.span := by
  obtain ⟨group, hgroup, hwithin⟩ := h.exists_infix _ hargument
  cases hgroup with
  | named name equals operand => exact ⟨equals, hwithin, rfl⟩

/-- **An invocation that is made of the tokens of its code stands in it as its spans say.** -/
theorem placed_of_madeOf {start : Nat} {code : List Char} {call : Invocation}
    {tokens : List (Spanned Token)} (hlaid : Laid start code tokens)
    (hmade : MadeOf call.parts tokens) : call.Placed start code := by
  have hnamed : ∀ argument ∈ call.named.values, Part.named argument ∈ call.parts := by
    intro argument hargument
    simp [parts, hargument]
  -- One token is read from its own characters.
  have single : ∀ {token : Token} {span : Span}, [⟨token, span⟩] <:+: tokens →
      Lexes 0 none (sliceAt start code span) [token] := by
    intro token span hwithin
    exact (hlaid.neighbours hwithin rfl rfl).lexes
  refine { ordered := hmade.ordered hlaid.ordered, reads := ?_, nested := ?_, names := ?_,
           values := ?_ }
  · intro part hpart
    obtain ⟨group, hgroup, hwithin⟩ := hmade.exists_infix part hpart
    obtain ⟨first, hfirst, last, hlast, hspan⟩ := hgroup.span_eq
    rw [hspan, ← hgroup.tokens_eq]
    exact (hlaid.neighbours hwithin hfirst hlast).lexes
  · intro argument hargument
    obtain ⟨equals, hwithin, hspan⟩ := hmade.named (hnamed argument hargument)
    rw [hspan]
    refine ⟨Nat.le_refl _, ?_, Nat.le_refl _⟩
    have hordered := hlaid.ordered.sublist hwithin.sublist
    exact (List.pairwise_cons.mp hordered).1
      ⟨argument.node.operand.node.token, argument.node.operand.span⟩ (by simp)
  · intro argument hargument
    obtain ⟨equals, hwithin, -⟩ := hmade.named (hnamed argument hargument)
    exact single (.trans ⟨[], _, rfl⟩ hwithin)
  · intro argument hargument
    obtain ⟨equals, hwithin, -⟩ := hmade.named (hnamed argument hargument)
    exact single (.trans ⟨[_, _], [], rfl⟩ hwithin)

end Invocation

theorem Code.placed_of_parse {code : String} {offset : Nat} {call : Invocation}
    (h : Code.parse code offset = .ok (.invocation call)) : call.Placed offset code.toList := by
  obtain ⟨tokens, hlaid, hmade⟩ := Code.parts_of_parse h
  exact Invocation.placed_of_madeOf hlaid hmade

/-! ## §4. The error of a template. -/

theorem error_of_map_error {α β : Type} {result : Except SyntaxError α} {f : α → β}
    {e : SyntaxError} (h : result.map f = .error e) : result = .error e := by
  cases result with
  | ok a => cases h
  | error e' =>
      cases h
      rfl

namespace Region

/-- The regions of a template are read up to the first one that fails. -/
theorem exists_of_readRegions_error {source : List Char} {e : SyntaxError} :
    ∀ {spans : List Span} {pos : Nat}, readRegions source pos spans = .error e →
      ∃ earlier region later, spans = earlier ++ region :: later ∧
        (∀ other ∈ earlier, ∃ block, regionBlock source other = .ok block) ∧
        regionBlock source region = .error e
  | [], _, h => by cases h
  | span :: spans, pos, h => by
      rw [readRegions] at h
      cases hblock : regionBlock source span with
      | error e' =>
          rw [hblock] at h
          cases h
          exact ⟨[], span, spans, rfl, List.forall_mem_nil _, hblock⟩
      | ok block =>
          cases hmore : readRegions source span.stop spans with
          | ok more =>
              rw [hblock] at h
              simp only [hmore, bind, Except.bind] at h
              cases h
          | error e' =>
              rw [hblock] at h
              simp only [hmore, bind, Except.bind] at h
              cases h
              obtain ⟨earlier, region, later, rfl, hearlier, hregion⟩ :=
                exists_of_readRegions_error hmore
              exact ⟨span :: earlier, region, later, rfl,
                List.forall_mem_cons.mpr ⟨⟨block, hblock⟩, hearlier⟩, hregion⟩

/-- A region is a piece of the template between its braces. -/
theorem exists_raw {seen text : List Char} {spans : List Span}
    (h : Regions (seen ++ text) (byteSize seen) spans) :
    ∀ region ∈ spans, ∃ front interior rest,
      seen ++ text = front ++ (Piece.region interior).raw ++ rest ∧
        region = ⟨byteSize front, byteSize (front ++ (Piece.region interior).raw)⟩ := by
  induction spans generalizing seen text with
  | nil => exact List.forall_mem_nil _
  | cons span spans ih =>
      cases h with
      | next hnext hmore =>
          obtain ⟨front, interior, rest, hfirst, rfl⟩ := isNext_append_iff.mp hnext
          have htext : seen ++ text = seen ++ front ++ (Piece.region interior).raw ++ rest := by
            rw [hfirst.text_eq]
            simp [Piece.raw]
          rw [htext] at hmore ⊢
          exact List.forall_mem_cons.mpr ⟨⟨_, interior, rest, rfl, rfl⟩, ih hmore⟩

/-- **An error in the code of a region points between the braces of the region.** -/
theorem ends_of_readInterior_error {source : List Char} {spans : List Span}
    (h : Regions source 0 spans) {region : Span} (hregion : region ∈ spans) {e : SyntaxError}
    (he : readInterior source region = .error e) :
    e.span.Ends fun pos => region.start + 2 ≤ pos ∧ pos ≤ region.stop - 2 := by
  have hregions : Regions ([] ++ source) (byteSize []) spans := h
  obtain ⟨front, inner, rest, hsource, rfl⟩ := exists_raw hregions region hregion
  have hinner : interior source ⟨byteSize front, byteSize (front ++ (Piece.region inner).raw)⟩
      = inner := by
    rw [List.nil_append] at hsource
    rw [hsource]
    exact slice_interior front inner rest
  obtain ⟨blanks, -, htrim⟩ := eq_append_trimBlanks inner
  have hsize : byteSize inner = byteSize (inner.takeWhile isBlank)
      + (byteSize (trimBlanks inner) + byteSize blanks) := by
    rw [← byteSize_append, ← byteSize_append, ← htrim]
  unfold readInterior at he
  rw [hinner] at he
  -- The code lies between the blanks at the ends of the interior.
  refine (Code.errsIn_parse _ _ e he).1.imp fun pos hpos => ?_
  obtain ⟨hle, hge, -⟩ := hpos
  rw [String.toList_ofList] at hge
  rw [byteSize_append, byteSize_region]
  dsimp only at hle hge ⊢
  omega

/-- **An error in the code of a region points forward.**  The code has no blanks at its end that
the error could go back over. -/
theorem forward_of_readInterior_error {source : List Char} {region : Span}
    (h : ¬ Blank source region) {e : SyntaxError} (he : readInterior source region = .error e) :
    e.span.start ≤ e.span.stop := by
  have hcode : trimBlanks (interior source region) ≠ [] := mt trimBlanks_eq_nil_iff.mp h
  obtain ⟨-, hforward | ⟨front, blanks, htext, hblanks, hspan⟩⟩ := Code.errsIn_parse _ _ e he
  · exact hforward
  rw [String.toList_ofList] at htext hspan
  cases blanks using List.reverseRecOn with
  | nil =>
      rw [hspan, htext, List.append_nil]
  | append_singleton blanks c =>
      -- A blank would be the last character of the code.
      have hlast := (trimmed_trimBlanks _ hcode).last c (by rw [htext]; simp)
      rw [hblanks c (by simp)] at hlast
      contradiction

end Region

/-- **A template that fails fails at a region.** -/
theorem Template.blames_of_error {source : String} {e : SyntaxError}
    (h : Template.parse source = .error e) :
    ∃ earlier region later, Region.Regions source.toList 0 (earlier ++ region :: later) ∧
      Region.Blames source.toList e earlier region := by
  obtain ⟨spans, hspans⟩ := Region.exists_regions [] source.toList
  have hread : blocksFrom 0 (Piece.cut source.toList)
      = Region.readRegions source.toList 0 spans := Region.blocksFrom_cut hspans
  have hparse : Template.parse source
      = (Region.readRegions source.toList 0 spans).map fun blocks => { source, blocks } := by
    rw [Template.parse, hread]
    rfl
  have herror := error_of_map_error (hparse.symm.trans h)
  obtain ⟨earlier, region, later, rfl, hearlier, hregion⟩ :=
    Region.exists_of_readRegions_error herror
  -- A blank region is text and does not fail.
  have hcode : ¬ Region.Blank source.toList region := by
    intro hblank
    rw [Region.regionBlock_of_blank hblank] at hregion
    cases hregion
  rw [Region.regionBlock_eq_readInterior hcode] at hregion
  have hinterior := error_of_map_error hregion
  refine ⟨earlier, region, later, hspans, ?_, hcode, hinterior, ?_,
    Region.forward_of_readInterior_error hcode hinterior⟩
  · intro other hother
    by_cases hblank : Region.Blank source.toList other
    · exact .inl hblank
    · right
      obtain ⟨block, hblock⟩ := hearlier other hother
      rw [Region.regionBlock_eq_readInterior hblank] at hblock
      obtain ⟨inner, hinner, -⟩ := Code.exists_of_map_ok hblock
      exact ⟨inner, hinner⟩
  · exact Region.ends_of_readInterior_error hspans (by simp) hinterior

/-! ## §5. The whole. -/

/-- **Spans are right everywhere.**  Code that begins so many bytes later is read as the same block,
or refused with the same error, with all spans moved by these bytes.  All spans of a block go from
one place of its code to a later one.  The span of an error goes from one place to another as well,
and forward, unless the code breaks off: then it goes from the end of the code back over the blanks
there.  An invocation that is read stands in its code as its spans say: its parts follow one another
in the order of the source, each of them is what its own characters are read as, and a named
argument holds its name and then its value.  A template that fails does so at the first of its
regions that is not blank and cannot be read, and the error points forward between the braces of
this region. -/
theorem Code.parse_places :
    (∀ (code : String) (k : Nat),
      Code.parse code k = movedBy k (Block.shift k) (Code.parse code)) ∧
    (∀ (code : String) (k : Nat) (e : SyntaxError), Code.parse code k = .error e →
      e.span.Ends (IsPlace k code.toList) ∧
        (e.span.start ≤ e.span.stop ∨ e.span.BackOverBlanks k code.toList)) ∧
    (∀ (code : String) (k : Nat) (block : Block), Code.parse code k = .ok block →
      ∀ span ∈ block.spans, span.Points k code.toList) ∧
    (∀ (code : String) (k : Nat) (call : Invocation),
      Code.parse code k = .ok (.invocation call) → call.Placed k code.toList) ∧
    ∀ (source : String) (e : SyntaxError), Template.parse source = .error e →
      ∃ earlier region later, Region.Regions source.toList 0 (earlier ++ region :: later) ∧
        Region.Blames source.toList e earlier region := by
  refine ⟨?_, ?_, ?_, ?_, ?_⟩
  · intro code k
    have hshift := Code.parse_shift k code 0
    rwa [Nat.zero_add] at hshift
  · intro code k
    exact Code.errsIn_parse code k
  · intro code k block h
    exact Code.points_of_parse h
  · intro code k call h
    exact Code.placed_of_parse h
  · intro source e h
    exact Template.blames_of_error h

/-- A call with parts of all kinds, blanks within some of them and characters of several bytes. -/
def umlautCall : String :=
  "box . add $n 'é' to = \"ü\""

/-- A template with a blank region, one that can be read, and one that cannot. -/
def lateMark : String :=
  "é \x7b\x7b \x7d\x7d\x7b\x7b$x\x7d\x7d\x7b\x7b f 'é' = \x7d\x7d"

theorem Code.parse_places_umlauts :
    (∃ call, Code.parse umlautCall 3 = .ok (.invocation call) ∧
      call.parts.map (·.span) = [⟨3, 12⟩, ⟨13, 15⟩, ⟨16, 20⟩, ⟨21, 30⟩] ∧
      (∀ span ∈ (Block.invocation call).spans, span.Points 3 umlautCall.toList) ∧
      call.Placed 3 umlautCall.toList) ∧
    (∃ e, Code.parse "f 'é' =" 17 = .error e ∧
      e.span.Ends (IsPlace 17 "f 'é' =".toList)) ∧
    (∃ e, Code.parse "f x=  " = .error e ∧ e.span = ⟨6, 4⟩ ∧
      e.span.BackOverBlanks 0 "f x=  ".toList) ∧
    ∃ e earlier region later, Template.parse lateMark = .error e ∧ e.span = ⟨24, 25⟩ ∧
      Region.Regions lateMark.toList 0 (earlier ++ region :: later) ∧
      Region.Blames lateMark.toList e earlier region := by
  obtain ⟨-, errors, spans, placed, templates⟩ := Code.parse_places
  have hcall : Code.parse umlautCall 3
      = .ok (.invocation
          { function := ⟨⟨some "box", "add"⟩, ⟨3, 12⟩⟩
            positional := [⟨.variable "n", ⟨13, 15⟩⟩, ⟨.value ⟨"é", .single⟩, ⟨16, 20⟩⟩]
            named := .ofList
              [("to", ⟨⟨⟨"to", ⟨21, 23⟩⟩, ⟨.value ⟨"ü", .double⟩, ⟨26, 30⟩⟩⟩, ⟨21, 30⟩⟩)] }) := by
    cbv
  have herror : Code.parse "f 'é' =" 17
      = .error ⟨⟨24, 25⟩, .unexpected (some .equals) [.endOfBlock], some "f 'é' ="⟩ := by
    cbv
  have hbroken : Code.parse "f x=  " = .error ⟨⟨6, 4⟩, .unexpected none [], some "f x=  "⟩ := by
    cbv
  have htemplate : Template.parse lateMark
      = .error ⟨⟨24, 25⟩, .unexpected (some .equals) [.endOfBlock], some "f 'é' ="⟩ := by
    cbv
  have hback := (errors _ 0 _ hbroken).2.resolve_left (by decide)
  obtain ⟨earlier, region, later, hregions, hblames⟩ := templates lateMark _ htemplate
  exact ⟨⟨_, hcall, rfl, spans umlautCall 3 _ hcall, placed umlautCall 3 _ hcall⟩,
    ⟨_, herror, (errors _ 17 _ herror).1⟩, ⟨_, hbroken, rfl, hback⟩, _, earlier, region, later,
    htemplate, rfl, hregions, hblames⟩

/-- A template with a blank region and one that cannot be read. -/
def markBehindBlank : String :=
  "\x7b\x7b \x7d\x7d\x7b\x7b = \x7d\x7d"

/-- The blank region is the first one. -/
theorem isNext_markBehindBlank : Region.IsNext markBehindBlank.toList 0 ⟨0, 5⟩ := by
  have hreads : Region.Reads markBehindBlank.toList [] [.char ' ']
      "\x7b\x7b = \x7d\x7d".toList := by
    refine ⟨rfl, by decide, ?_, by decide⟩
    exact List.forall_mem_singleton.mpr rfl
  exact ⟨[], [' '], _, ⟨[], [.char ' '], [], [.char ' '], hreads, ⟨rfl, by decide⟩, rfl, rfl⟩,
    rfl, rfl⟩

/-- A blank region is text and does not fail, although nothing is no code: the error need not point
at the first region whose interior cannot be read. -/
theorem Template.error_behind_blank :
    ¬ ∀ (source : String) (e : SyntaxError), Template.parse source = .error e →
      ∃ earlier region later, Region.Regions source.toList 0 (earlier ++ region :: later) ∧
        (∀ other ∈ earlier, ∃ block, Region.readInterior source.toList other = .ok block) ∧
        (∃ fault, Region.readInterior source.toList region = .error fault) ∧
        e.span.Ends fun pos => region.start + 2 ≤ pos ∧ pos ≤ region.stop - 2 := by
  intro h
  have hparse : Template.parse markBehindBlank
      = .error ⟨⟨8, 9⟩, .unexpected (some .equals) [], some "="⟩ := by
    cbv
  have hblank : Region.readInterior markBehindBlank.toList ⟨0, 5⟩
      = .error ⟨⟨3, 3⟩, .unexpected none [], some ""⟩ := by
    cbv
  obtain ⟨earlier, region, later, hregions, hearlier, -, hends⟩ := h _ _ hparse
  cases earlier with
  | nil =>
      -- The blank region would be the one at fault, but the error points behind it.
      cases hregions with
      | next hnext _ =>
          obtain rfl := isNext_markBehindBlank.unique hnext
          have hstop := hends.1.2
          revert hstop
          decide
  | cons first earlier =>
      -- The blank region would be one that can be read.
      cases hregions with
      | next hnext _ =>
          obtain rfl := isNext_markBehindBlank.unique hnext
          obtain ⟨block, hread⟩ := hearlier _ List.mem_cons_self
          rw [hblank] at hread
          cases hread

end PromptEngine
