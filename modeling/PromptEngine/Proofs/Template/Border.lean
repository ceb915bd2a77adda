/-
  PromptEngine.Proofs.Template.Border — behind a code block a template starts anew.

  When the scanner has closed a region, it holds nothing back and stands outside of every region,
  whatever comes next.  So a template that ends with a code block can be read apart from what is
  put behind it: the blocks of the whole are its own blocks, and those of the rest with their
  places moved.  A template that ends with text has no such border, since the text may go on, and
  its last brace may be the first one of two.

  Main results:
    * `cut_append` — the pieces of a text that ends with a region are those of the whole so far,
    * `blocksFrom_shift` — pieces are read the same wherever they stand,
    * `Template.parse_append` — a template that ends with a code block is read apart from the rest.
-/
import PromptEngine.Proofs.Template.Shift
import PromptEngine.Proofs.Template.Tiling

namespace PromptEngine

/-! ## §1. The scanner behind a region. -/

namespace Piece

theorem eq_nil_of_cut_eq_nil {text : List Char} (h : cut text = []) : text = [] := by
  have hraw := flatMap_raw_cut text
  rw [h] at hraw
  exact hraw.symm

theorem getLast?_plain?_ne_region (reversed interior : List Char) :
    (plain? reversed).getLast? ≠ some (.region interior) :=
  fun h => not_region_mem_plain? (List.mem_of_getLast? h)

/-- Outside of literals the scanner is outside of regions or inside one. -/
theorem Mode.eq_inside {mode : Mode} (hliteral : ∀ quote, mode ≠ .literal quote)
    (houtside : mode ≠ .outside) : mode = .inside := by
  cases mode with
  | outside => exact absurd rfl houtside
  | inside => rfl
  | literal quote => exact absurd rfl (hliteral quote)

/-- **Behind a region the scanner starts anew.**  If the last piece of a text is a region, then
more text adds its own pieces and changes none. -/
theorem cutFrom_append (more : List Char) {mode : Mode} {before interior text last : List Char}
    (h : (cutFrom mode before interior text).getLast? = some (.region last)) :
    cutFrom mode before interior (text ++ more)
      = cutFrom mode before interior text ++ cut more := by
  fun_induction cutFrom mode before interior text with
  | case1 => exact absurd h (getLast?_plain?_ne_region _ _)
  | case2 => exact absurd h (getLast?_plain?_ne_region _ _)
  | case3 before interior quote c d rest hprotected ih =>
      rw [← ih h, List.cons_append, List.cons_append, cutFrom, if_pos hprotected]
  | case4 before interior quote c d rest hprotected hquote ih =>
      rw [← ih h, List.cons_append, List.cons_append, cutFrom, if_neg hprotected, if_pos hquote]
  | case5 before interior quote c d rest hprotected hquote ih =>
      rw [← ih h, List.cons_append, List.cons_append, cutFrom, if_neg hprotected, if_neg hquote]
  | case6 mode before interior c d rest hliteral hopen hthird ih =>
      have hthird' : ((rest ++ more).head? == some '{') = true := by
        rw [beq_iff_eq] at hthird ⊢
        rw [List.head?_append, hthird, Option.some_or]
      rw [← ih h, List.cons_append, List.cons_append]
      cases mode with
      | literal quote => exact absurd rfl (hliteral quote)
      | _ => rw [cutFrom, if_pos hopen, if_pos hthird'] <;> simp
  | case7 mode before interior c d rest hliteral hopen hthird ih =>
      -- The text goes on behind these braces, so it is not the added text that follows them.
      have hthird' : ¬ ((rest ++ more).head? == some '{') = true := by
        cases rest with
        | nil => exact absurd h (getLast?_plain?_ne_region _ _)
        | cons e rest => exact hthird
      rw [← ih h, List.cons_append, List.cons_append]
      cases mode with
      | literal quote => exact absurd rfl (hliteral quote)
      | _ => rw [cutFrom, if_pos hopen, if_neg hthird'] <;> simp
  | case8 before interior c d rest hopen _ ih =>
      rw [← ih h, List.cons_append, List.cons_append, cutFrom, if_neg hopen]
  | case9 mode before interior c d rest hliteral hopen hclose houtside ih =>
      obtain rfl := Mode.eq_inside hliteral houtside
      -- This region is the last one, and then the text ends with it, or there is another one.
      have hrest : cutFrom .outside [] [] (rest ++ more)
          = cutFrom .outside [] [] rest ++ cut more := by
        cases hcut : cutFrom .outside [] [] rest with
        | nil =>
            rw [eq_nil_of_cut_eq_nil hcut]
            rfl
        | cons piece pieces =>
            rw [← hcut]
            refine ih ?_
            rw [← h, hcut, List.getLast?_append_of_ne_nil _ (by simp), List.getLast?_cons_cons]
      rw [List.cons_append, List.cons_append, cutFrom, if_neg hopen, if_pos hclose, hrest] <;> simp
  | case10 mode before interior c d rest hliteral hopen hclose hquote houtside ih =>
      obtain rfl := Mode.eq_inside hliteral houtside
      rw [← ih h, List.cons_append, List.cons_append, cutFrom, if_neg hopen, if_neg hclose,
        if_pos hquote] <;> simp
  | case11 mode before interior c d rest hliteral hopen hclose hquote houtside ih =>
      obtain rfl := Mode.eq_inside hliteral houtside
      rw [← ih h, List.cons_append, List.cons_append, cutFrom, if_neg hopen, if_neg hclose,
        if_neg hquote] <;> simp

theorem cut_append {text last : List Char} (h : (cut text).getLast? = some (.region last))
    (more : List Char) : cut (text ++ more) = cut text ++ cut more :=
  cutFrom_append more h

end Piece

/-! ## §2. Moved blocks. -/

/-- A block of a template with its places moved, its own bytes included. -/
def Spanned.shiftBlock (k : Nat) (block : Spanned Block) : Spanned Block :=
  ⟨block.node.shift k, block.span.shift k⟩

/-- A piece is read as the same block wherever it stands. -/
theorem Piece.block_shift (k pos : Nat) (piece : Piece) :
    piece.block (pos + k) = movedBy k (Block.shift k) (piece.block pos) := by
  cases piece with
  | plain text => rfl
  | region interior =>
      unfold Piece.block
      dsimp only
      split
      · rfl
      · rw [← Code.parse_shift]
        congr 1
        omega

/-- **Pieces are read as the same blocks wherever they stand**, or refused with the same error. -/
theorem blocksFrom_shift (k pos : Nat) (pieces : List Piece) :
    blocksFrom (pos + k) pieces
      = movedBy k (List.map (Spanned.shiftBlock k)) (blocksFrom pos pieces) := by
  induction pieces generalizing pos with
  | nil => rfl
  | cons piece pieces ih =>
      rw [blocksFrom, blocksFrom, Piece.block_shift]
      refine movedBy_bind (fun block => ?_) _
      rw [Nat.add_right_comm, ih]
      refine movedBy_bind (f := List.map (Spanned.shiftBlock k)) (fun rest => ?_) _
      rfl

/-- The blocks of two rows of pieces are those of the first and, behind them, of the second. -/
theorem blocksFrom_append {pos : Nat} {pieces : List Piece} {blocks : List (Spanned Block)}
    (h : blocksFrom pos pieces = .ok blocks) (more : List Piece) :
    blocksFrom pos (pieces ++ more)
      = (blocksFrom (pos + byteSize (pieces.flatMap Piece.raw)) more).map (blocks ++ ·) := by
  induction pieces generalizing pos blocks with
  | nil =>
      cases h
      cases hmore : blocksFrom pos more <;> simp [hmore, Except.map]
  | cons piece pieces ih =>
      obtain ⟨block, rest, hblock, hrest, rfl⟩ := blocksFrom_cons_eq_ok_iff.1 h
      rw [List.cons_append, blocksFrom, hblock, List.flatMap_cons, byteSize_append, ← Nat.add_assoc]
      simp only [bind, Except.bind, ih hrest]
      cases blocksFrom (pos + byteSize piece.raw + byteSize (pieces.flatMap Piece.raw)) more <;> rfl

/-- The block of a row's last piece is the last block. -/
theorem getLast?_blocksFrom {pos : Nat} {pieces : List Piece} {blocks : List (Spanned Block)}
    (h : blocksFrom pos pieces = .ok blocks) {last : Spanned Block}
    (hlast : blocks.getLast? = some last) :
    ∃ piece start, pieces.getLast? = some piece ∧ piece.block start = .ok last.node := by
  induction pieces generalizing pos blocks with
  | nil =>
      cases h
      contradiction
  | cons piece pieces ih =>
      obtain ⟨block, rest, hblock, hrest, rfl⟩ := blocksFrom_cons_eq_ok_iff.1 h
      cases pieces with
      | nil =>
          cases hrest
          obtain rfl := Option.some.inj hlast
          exact ⟨piece, pos, rfl, hblock⟩
      | cons next pieces =>
          obtain ⟨_, more, -, -, rfl⟩ := blocksFrom_cons_eq_ok_iff.1 hrest
          rw [List.getLast?_cons_cons] at hlast ⊢
          exact ih hrest hlast

/-- A template that ends with a code block ends with a region. -/
theorem getLast?_cut_of_code {source : List Char} {blocks : List (Spanned Block)}
    (h : blocksFrom 0 (Piece.cut source) = .ok blocks) {last : Spanned Block}
    (hlast : blocks.getLast? = some last) (hcode : last.node.kind ≠ .text) :
    ∃ interior, (Piece.cut source).getLast? = some (.region interior) := by
  obtain ⟨piece, start, hpiece, hblock⟩ := getLast?_blocksFrom h hlast
  cases piece with
  | region interior => exact ⟨interior, hpiece⟩
  | plain text =>
      have hnode : Block.text (String.ofList text) = last.node := Except.ok.inj hblock
      rw [← hnode] at hcode
      exact absurd rfl hcode

/-! ## §3. The border. -/

theorem Template.parse_eq_ok_iff {source : String} {template : Template} :
    Template.parse source = .ok template ↔
      template.source = source ∧ blocksFrom 0 (Piece.cut source.toList) = .ok template.blocks := by
  unfold Template.parse
  cases blocksFrom 0 (Piece.cut source.toList) with
  | error e => simp [bind, Except.bind]
  | ok blocks =>
      obtain ⟨source', blocks'⟩ := template
      simp [bind, Except.bind, pure, Except.pure, eq_comm]

/-- **A template that ends with a code block is read apart from what follows it.**  Whatever is put
behind it, with whatever braces and quotes at its ends, is read as it would be alone: its blocks,
with their places moved, come behind those of the template, and if it cannot be read, the whole
fails with the same error at the moved place. -/
theorem Template.parse_append {front : String} {template : Template} {last : Spanned Block}
    (h : Template.parse front = .ok template) (hlast : template.blocks.getLast? = some last)
    (hcode : last.node.kind ≠ .text) (more : String) :
    (∀ rest, Template.parse more = .ok rest →
      Template.parse (front ++ more)
        = .ok ⟨front ++ more,
            template.blocks ++ rest.blocks.map (Spanned.shiftBlock front.utf8ByteSize)⟩) ∧
    ∀ e, Template.parse more = .error e →
      Template.parse (front ++ more) = .error (e.shift front.utf8ByteSize) ∧
      (e.shift front.utf8ByteSize).diagnostic
        = { e.diagnostic with span := e.span.shift front.utf8ByteSize } := by
  obtain ⟨-, hblocks⟩ := Template.parse_eq_ok_iff.1 h
  obtain ⟨interior, hregion⟩ := getLast?_cut_of_code hblocks hlast hcode
  -- The pieces behind the border are those of the added text, moved by the size of the template.
  have hwhole : blocksFrom 0 (Piece.cut (front ++ more).toList)
      = (movedBy front.utf8ByteSize (List.map (Spanned.shiftBlock front.utf8ByteSize))
          (blocksFrom 0 (Piece.cut more.toList))).map (template.blocks ++ ·) := by
    rw [String.toList_append, Piece.cut_append hregion, blocksFrom_append hblocks,
      Piece.flatMap_raw_cut, byteSize_toList, blocksFrom_shift]
  constructor
  · intro rest hrest
    obtain ⟨-, hmore⟩ := Template.parse_eq_ok_iff.1 hrest
    rw [hmore] at hwhole
    exact Template.parse_eq_ok_iff.2 ⟨rfl, hwhole⟩
  · intro e herror
    have hmore : blocksFrom 0 (Piece.cut more.toList) = .error e := by
      unfold Template.parse at herror
      cases hread : blocksFrom 0 (Piece.cut more.toList) with
      | ok blocks =>
          rw [hread] at herror
          contradiction
      | error e' =>
          rw [hread] at herror
          exact congrArg Except.error (Except.error.inj herror)
    rw [hmore] at hwhole
    refine ⟨?_, rfl⟩
    unfold Template.parse
    rw [hwhole]
    rfl

/-- A template whose last bytes are a literal with closing braces and the braces that close it. -/
def bracedSource : String :=
  "é\x7b\x7bf 'x\x7d\x7d'\x7d\x7d"

/-- The call at the end of that template. -/
def bracedCall : Invocation :=
  { function := ⟨⟨none, "f"⟩, ⟨4, 5⟩⟩
    positional := [⟨.value ⟨"x\x7d\x7d", .single⟩, ⟨6, 11⟩⟩]
    named := .empty }

/-- More braces behind the border are read as what they are alone: text before a variable, and an
unfinished literal that keeps nothing from being refused. -/
theorem parse_append_braces :
    Template.parse bracedSource
      = .ok ⟨bracedSource, [⟨.text "é", ⟨0, 2⟩⟩, ⟨.invocation bracedCall, ⟨2, 13⟩⟩]⟩ ∧
    (Block.invocation bracedCall).kind ≠ .text ∧
    Template.parse (bracedSource ++ "\x7d\x7b\x7b\x7b$v\x7d\x7d'é")
      = .ok ⟨bracedSource ++ "\x7d\x7b\x7b\x7b$v\x7d\x7d'é",
          [⟨.text "é", ⟨0, 2⟩⟩, ⟨.invocation bracedCall, ⟨2, 13⟩⟩, ⟨.text "\x7d\x7b", ⟨13, 15⟩⟩,
            ⟨.variable "v", ⟨15, 21⟩⟩, ⟨.text "'é", ⟨21, 24⟩⟩]⟩ ∧
    Template.parse (bracedSource ++ "\x7d'\x7b\x7bé\x7d\x7d")
      = .error ⟨⟨17, 19⟩, .strayCharacter 'é', some "é"⟩ := by
  have hfront : Template.parse bracedSource
      = .ok ⟨bracedSource, [⟨.text "é", ⟨0, 2⟩⟩, ⟨.invocation bracedCall, ⟨2, 13⟩⟩]⟩ := by
    cbv
  have hvariable : Template.parse "\x7d\x7b\x7b\x7b$v\x7d\x7d'é"
      = .ok ⟨"\x7d\x7b\x7b\x7b$v\x7d\x7d'é",
          [⟨.text "\x7d\x7b", ⟨0, 2⟩⟩, ⟨.variable "v", ⟨2, 8⟩⟩, ⟨.text "'é", ⟨8, 11⟩⟩]⟩ := by
    cbv
  have hstray : Template.parse "\x7d'\x7b\x7bé\x7d\x7d"
      = .error ⟨⟨4, 6⟩, .strayCharacter 'é', some "é"⟩ := by
    cbv
  have hcode : (Block.invocation bracedCall).kind ≠ .text := by decide
  refine ⟨hfront, hcode, ?_, ?_⟩
  · rw [(Template.parse_append hfront rfl hcode _).1 _ hvariable]
    rfl
  · rw [((Template.parse_append hfront rfl hcode _).2 _ hstray).1]
    rfl

end PromptEngine
