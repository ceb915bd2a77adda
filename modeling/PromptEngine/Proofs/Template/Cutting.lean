/-
  PromptEngine.Proofs.Template.Cutting — the scanner finds the blocks that were written.

  The scanner is a machine with three modes; §1 gives its steps, one equation for each thing it
  can meet.  From them follow two statements about longer stretches:

    • `cutFrom_text` — text without two opening braces in a row is passed over, also if it ends
      with a brace and a code region comes next,
    • `Passes` — code that is passed over inside a region, whatever its literals hold.

  Main fact: cutting the text that is written for a row of blocks gives one piece for each block
  (`cut_writeAll`).
-/
import PromptEngine.Proofs.Template.Lexing

namespace PromptEngine

namespace Piece

/-! ## §1. The steps of the scanner. -/

/-- Outside a region the scanner passes over whatever does not open one. -/
theorem cutFrom_outside (before : List Char) (c : Char) (rest : List Char)
    (h : ¬ ['{', '{'] <+: c :: rest) :
    cutFrom .outside before [] (c :: rest) = cutFrom .outside (c :: before) [] rest := by
  cases rest with
  | nil => simp [cutFrom, held]
  | cons d rest =>
    have hopen : (c == '{' && d == '{') = false := by
      rw [Bool.eq_false_iff]
      intro hb
      simp only [Bool.and_eq_true, beq_iff_eq] at hb
      obtain ⟨rfl, rfl⟩ := hb
      exact h ⟨rest, rfl⟩
    rw [cutFrom]
    simp [hopen]

/-- Of three opening braces the last two open the region. -/
theorem cutFrom_three (before : List Char) (rest : List Char) :
    cutFrom .outside before [] ('{' :: '{' :: '{' :: rest)
      = cutFrom .outside ('{' :: before) [] ('{' :: '{' :: rest) := by
  rw [cutFrom]
  simp [held]

/-- Two opening braces open a region. -/
theorem cutFrom_open (before : List Char) {rest : List Char} (h : rest.head? ≠ some '{') :
    cutFrom .outside before [] ('{' :: '{' :: rest) = cutFrom .inside before [] rest := by
  rw [cutFrom]
  simp [h, held]

/-- Two closing braces close the region. -/
theorem cutFrom_close (before interior rest : List Char) :
    cutFrom .inside before interior ('}' :: '}' :: rest)
      = plain? before ++ .region interior.reverse :: cutFrom .outside [] [] rest := by
  rw [cutFrom] <;> simp

/-- Inside a region the scanner passes over what is neither a brace nor a quote. -/
theorem cutFrom_inside (before interior : List Char) {c : Char} {rest : List Char}
    (hopen : c ≠ '{') (hclose : c ≠ '}') (hquote : isQuote c = false) (hrest : rest ≠ []) :
    cutFrom .inside before interior (c :: rest) = cutFrom .inside before (c :: interior) rest := by
  obtain ⟨d, rest, rfl⟩ := List.exists_cons_of_ne_nil hrest
  rw [cutFrom] <;> simp [hopen, hclose, hquote]

/-- Inside a region the scanner passes over whatever is no quote and no pair of braces. -/
theorem cutFrom_pass (before interior : List Char) {c d : Char} (rest : List Char)
    (hopen : ¬ (c = '{' ∧ d = '{')) (hclose : ¬ (c = '}' ∧ d = '}')) (hquote : isQuote c = false) :
    cutFrom .inside before interior (c :: d :: rest)
      = cutFrom .inside before (c :: interior) (d :: rest) := by
  rw [cutFrom] <;> simp [hopen, hclose, hquote]

/-- At two opening braces inside a region the scanner gives up the region: it goes on as it would
outside, with all that it holds back as text. -/
theorem cutFrom_reopen (before interior rest : List Char) :
    cutFrom .inside before interior ('{' :: '{' :: rest)
      = cutFrom .outside (interior ++ '{' :: '{' :: before) [] ('{' :: '{' :: rest) := by
  rw [cutFrom, cutFrom] <;> simp [held]

/-- A quote opens a literal. -/
theorem cutFrom_quote (before interior : List Char) (quote : Quote) {rest : List Char}
    (hrest : rest ≠ []) :
    cutFrom .inside before interior (quote.char :: rest)
      = cutFrom (.literal quote.char) before (quote.char :: interior) rest := by
  obtain ⟨d, rest, rfl⟩ := List.exists_cons_of_ne_nil hrest
  cases quote <;> rw [cutFrom] <;> simp [Quote.char, isQuote]

/-- A backslash protects the quote and the backslash. -/
theorem cutFrom_protected (before interior : List Char) {quote c : Char} (rest : List Char)
    (h : c = '\\' ∨ c = quote) :
    cutFrom (.literal quote) before interior ('\\' :: c :: rest)
      = cutFrom (.literal quote) before (c :: '\\' :: interior) rest := by
  rw [cutFrom]
  rcases h with rfl | rfl <;> simp

/-- A backslash before anything else protects nothing. -/
theorem cutFrom_backslash (before interior : List Char) (quote : Quote) {c : Char}
    (rest : List Char) (hquote : c ≠ quote.char) (hback : c ≠ '\\') :
    cutFrom (.literal quote.char) before interior ('\\' :: c :: rest)
      = cutFrom (.literal quote.char) before ('\\' :: interior) (c :: rest) := by
  have hne : '\\' ≠ quote.char := by cases quote <;> decide
  rw [cutFrom]
  simp [hquote, hback, hne]

/-- Inside a literal the scanner passes over what is neither its quote nor a backslash. -/
theorem cutFrom_literal (before interior : List Char) {quote c : Char} {rest : List Char}
    (hback : c ≠ '\\') (hquote : c ≠ quote) (hrest : rest ≠ []) :
    cutFrom (.literal quote) before interior (c :: rest)
      = cutFrom (.literal quote) before (c :: interior) rest := by
  obtain ⟨d, rest, rfl⟩ := List.exists_cons_of_ne_nil hrest
  rw [cutFrom]
  simp [hback, hquote]

/-- Its quote closes a literal. -/
theorem cutFrom_unquote (before interior : List Char) (quote : Quote) {rest : List Char}
    (hrest : rest ≠ []) :
    cutFrom (.literal quote.char) before interior (quote.char :: rest)
      = cutFrom .inside before (quote.char :: interior) rest := by
  obtain ⟨d, rest, rfl⟩ := List.exists_cons_of_ne_nil hrest
  have hback : quote.char ≠ '\\' := by cases quote <;> decide
  rw [cutFrom]
  simp [hback]

/-! ## §2. Plain text. -/

/-- **Text that opens no region is passed over** up to the end or up to the next region. -/
theorem cutFrom_text (rest : List Char) (hrest : rest = [] ∨ ['{', '{'] <+: rest) :
    ∀ (text before : List Char), ¬ ['{', '{'] <:+: text →
      cutFrom .outside before [] (text ++ rest)
        = cutFrom .outside (text.reverse ++ before) [] rest
  | [], before, _ => rfl
  | c :: text, before, h => by
      have htail : ¬ ['{', '{'] <:+: text := fun hin => h (List.infix_cons hin)
      have hstep : cutFrom .outside before [] (c :: (text ++ rest))
          = cutFrom .outside (c :: before) [] (text ++ rest) := by
        by_cases hopen : ['{', '{'] <+: c :: (text ++ rest)
        · -- Two braces in a row: the second one can only be the first of the next region.
          obtain ⟨rfl, hnext⟩ := List.cons_prefix_cons.1 hopen
          cases text with
          | cons d text =>
            obtain ⟨rfl, -⟩ := List.cons_prefix_cons.1 hnext
            exact absurd (List.prefix_append ['{', '{'] text).isInfix h
          | nil =>
            rcases hrest with rfl | ⟨tail, rfl⟩
            · simp at hnext
            · exact cutFrom_three before tail
        · exact cutFrom_outside before c (text ++ rest) hopen
      rw [List.cons_append, hstep, cutFrom_text rest hrest text (c :: before) htail,
        List.reverse_cons, List.append_assoc]
      rfl

/-! ## §3. Code. -/

/-- Inside a region, the scanner passes over this code and is inside the region behind it. -/
def Passes (code : List Char) : Prop :=
  ∀ before interior rest : List Char, rest ≠ [] →
    cutFrom .inside before interior (code ++ rest)
      = cutFrom .inside before (code.reverse ++ interior) rest

theorem Passes.nil : Passes [] :=
  fun _ _ _ _ => rfl

theorem Passes.append {a b : List Char} (ha : Passes a) (hb : Passes b) : Passes (a ++ b) := by
  intro before interior rest hrest
  rw [List.append_assoc, ha before interior (b ++ rest) (by simp [hrest]),
    hb before (a.reverse ++ interior) rest hrest, List.reverse_append, List.append_assoc]

/-- A character that is neither a brace nor a quote passes. -/
theorem Passes.char {c : Char} (hopen : c ≠ '{') (hclose : c ≠ '}')
    (hquote : isQuote c = false) : Passes [c] :=
  fun before interior _ hrest => cutFrom_inside before interior hopen hclose hquote hrest

theorem Passes.cons {c : Char} {code : List Char} (hc : Passes [c]) (h : Passes code) :
    Passes (c :: code) :=
  hc.append h

/-- A name passes. -/
theorem Passes.name {name : List Char} (h : name.all isNameChar = true) : Passes name := by
  induction name with
  | nil => exact Passes.nil
  | cons c name ih =>
    simp only [List.all_cons, Bool.and_eq_true] at h
    -- Braces and quotes are no name characters.
    have other : ∀ d : Char, isNameChar d = false → c ≠ d := by
      rintro d hd rfl
      rw [h.1] at hd
      exact Bool.noConfusion hd
    have hquote : isQuote c = false := by
      simp [isQuote, other '\'' (by decide), other '"' (by decide)]
    exact Passes.cons (Passes.char (other '{' (by decide)) (other '}' (by decide)) hquote)
      (ih h.2)

/-- An escaped text stays inside its literal. -/
theorem cutFrom_escape (quote : Quote) (before : List Char) {rest : List Char}
    (hrest : rest ≠ []) :
    ∀ text interior : List Char,
      cutFrom (.literal quote.char) before interior (Literal.escape quote.char text ++ rest)
        = cutFrom (.literal quote.char) before
            ((Literal.escape quote.char text).reverse ++ interior) rest
  | [], interior => rfl
  | c :: text, interior => by
      have hmore : Literal.escape quote.char text ++ rest ≠ [] := by simp [hrest]
      rw [Literal.escape_cons]
      by_cases h : c = '\\' ∨ c = quote.char
      · rw [if_pos h]
        show cutFrom _ before interior ('\\' :: c :: (Literal.escape quote.char text ++ rest)) = _
        rw [cutFrom_protected before interior _ h, cutFrom_escape quote before hrest text]
        simp
      · rw [if_neg h]
        show cutFrom _ before interior (c :: (Literal.escape quote.char text ++ rest)) = _
        rw [cutFrom_literal before interior (fun e => h (.inl e)) (fun e => h (.inr e)) hmore,
          cutFrom_escape quote before hrest text]
        simp

/-- **A literal passes, whatever it holds**: braces, quotes and backslashes included. -/
theorem Passes.literal (v : QuotedValue) : Passes v.written := by
  intro before interior rest hrest
  have hclose : v.quote.char :: rest ≠ [] := by simp
  -- The quote opens the literal, the escaped text stays in it, and the same quote closes it.
  show cutFrom .inside before interior
    (v.quote.char :: ((Literal.escape v.quote.char v.value.toList ++ [v.quote.char]) ++ rest)) = _
  rw [List.append_assoc, List.singleton_append,
    cutFrom_quote before interior v.quote (by simp),
    cutFrom_escape v.quote before hclose v.value.toList,
    cutFrom_unquote before _ v.quote hrest]
  simp [QuotedValue.written]

end Piece

open Piece

/-! ## §4. The code of a block. -/

theorem passes_of_isIdentifier {name : String} (h : isIdentifier name = true) :
    Passes name.toList :=
  Passes.name ((isIdentifier_iff name).1 h).2

theorem Operand.passes {operand : Operand} (h : operand.WellFormed) : Passes operand.written := by
  cases operand with
  | value v => exact Passes.literal v
  | «variable» name =>
    exact Passes.cons (Passes.char (by decide) (by decide) rfl) (passes_of_isIdentifier h)

theorem BareArgument.passes {argument : BareArgument} (h : argument.WellFormed) :
    Passes argument.written := by
  cases argument with
  | positional operand => exact operand.passes h
  | named name operand =>
    exact (passes_of_isIdentifier h.1).append
      (Passes.cons (Passes.char (by decide) (by decide) rfl) (operand.passes h.2))

theorem passes_arguments {arguments : List BareArgument}
    (h : ∀ argument ∈ arguments, argument.WellFormed) :
    Passes (arguments.flatMap fun a => ' ' :: a.written) := by
  induction arguments with
  | nil => exact Passes.nil
  | cons argument rest ih =>
    have hspace : Passes [' '] := Passes.char (by decide) (by decide) rfl
    rw [List.flatMap_cons]
    exact (hspace.append (argument.passes (h argument List.mem_cons_self))).append
      (ih fun a ha => h a (List.mem_cons_of_mem _ ha))

/-- **The scanner stays inside the region over the whole code of a block.** -/
theorem BareBlock.passes_code {block : BareBlock} (h : block.WellFormed) : Passes block.code := by
  cases block with
  | text t => exact Passes.nil
  | value v => exact Passes.literal v
  | «variable» name => exact Operand.passes (show (Operand.variable name).WellFormed from h)
  | argument _ _ => exact h.elim
  | call c =>
    refine Passes.append ?_ (passes_arguments h.arguments)
    rw [FunctionRef.toList_toText]
    refine Passes.append ?_ (passes_of_isIdentifier h.name)
    cases hc : c.function.collection with
    | none => exact Passes.nil
    | some collection =>
      exact (passes_of_isIdentifier (h.collection collection hc)).append
        (Passes.char (by decide) (by decide) rfl)

/-! ## §5. Where code begins and ends. -/

/-- The text begins with something that is neither a blank nor an opening brace, and it does not
end with a blank. -/
structure Tight (text : List Char) : Prop where
  head : ∃ c rest, text = c :: rest ∧ isBlank c = false ∧ c ≠ '{'
  last : ∃ c front, text = front ++ [c] ∧ isBlank c = false

theorem Tight.append {a b : List Char} (ha : Tight a) (hb : Tight b) (middle : List Char) :
    Tight (a ++ middle ++ b) := by
  obtain ⟨c, rest, rfl, hc⟩ := ha.head
  obtain ⟨d, front, rfl, hd⟩ := hb.last
  exact ⟨⟨c, rest ++ middle ++ (front ++ [d]), by simp, hc⟩,
    ⟨d, c :: rest ++ middle ++ front, by simp, hd⟩⟩

/-- A tight text that goes on with tight texts, each behind a space, is tight. -/
theorem Tight.spaced {α : Type} (text : α → List Char) :
    ∀ {xs : List α} {front : List Char}, Tight front → (∀ x ∈ xs, Tight (text x)) →
      Tight (front ++ xs.flatMap fun x => ' ' :: text x)
  | [], front, hfront, _ => by simpa using hfront
  | x :: xs, front, hfront, h => by
      have hx : Tight (front ++ [' '] ++ text x) := hfront.append (h x List.mem_cons_self) [' ']
      have := Tight.spaced text hx fun y hy => h y (List.mem_cons_of_mem _ hy)
      simpa using this

/-- An identifier is tight. -/
theorem Tight.name {name : String} (h : isIdentifier name = true) : Tight name.toList := by
  obtain ⟨hne, hall⟩ := (isIdentifier_iff name).1 h
  have hname : ∀ c ∈ name.toList, isNameChar c = true := by simpa using hall
  constructor
  · obtain ⟨c, rest, hcons⟩ := List.exists_cons_of_ne_nil hne
    have hc : isNameChar c = true := hname c (by simp [hcons])
    refine ⟨c, rest, hcons, Token.isBlank_of_isNameChar hc, ?_⟩
    rintro rfl
    revert hc
    decide
  · have hlast := hname _ (List.getLast_mem hne)
    exact ⟨_, _, (List.dropLast_concat_getLast hne).symm, Token.isBlank_of_isNameChar hlast⟩

/-- A literal is tight: it begins and ends with its quote. -/
theorem Tight.literal (v : QuotedValue) : Tight v.written := by
  have hblank : isBlank v.quote.char = false := by cases v.quote <;> rfl
  have hbrace : v.quote.char ≠ '{' := by cases v.quote <;> decide
  exact ⟨⟨v.quote.char, _, rfl, hblank, hbrace⟩,
    ⟨v.quote.char, v.quote.char :: Literal.escape v.quote.char v.value.toList, rfl, hblank⟩⟩

theorem Operand.tight {operand : Operand} (h : operand.WellFormed) : Tight operand.written := by
  cases operand with
  | value v => exact Tight.literal v
  | «variable» name =>
    obtain ⟨c, front, hlast, hc⟩ := (Tight.name h).last
    exact ⟨⟨'$', name.toList, rfl, rfl, by decide⟩,
      ⟨c, '$' :: front, by simp [Operand.written, hlast], hc⟩⟩

theorem BareArgument.tight {argument : BareArgument} (h : argument.WellFormed) :
    Tight argument.written := by
  cases argument with
  | positional operand => exact operand.tight h
  | named name operand =>
    have := (Tight.name h.1).append (operand.tight h.2) ['=']
    simpa [BareArgument.written] using this

/-- **The code of a block is tight**, so that no blank is trimmed off it. -/
theorem BareBlock.tight_code {block : BareBlock} (h : block.WellFormed)
    (hcode : ¬ block.IsText) : Tight block.code := by
  cases block with
  | text t => exact absurd trivial hcode
  | value v => exact Tight.literal v
  | «variable» name => exact Operand.tight (show (Operand.variable name).WellFormed from h)
  | argument _ _ => exact h.elim
  | call c =>
    refine Tight.spaced _ ?_ fun argument hmem => argument.tight (h.arguments argument hmem)
    rw [FunctionRef.toList_toText]
    cases hc : c.function.collection with
    | none => simpa using Tight.name h.name
    | some collection =>
      exact (Tight.name (h.collection collection hc)).append (Tight.name h.name) ['.']

/-- No blank is trimmed off a tight text. -/
theorem Tight.trimBlanks_eq {text : List Char} (h : Tight text) : trimBlanks text = text := by
  obtain ⟨c, rest, hhead, hc, -⟩ := h.head
  obtain ⟨d, front, hlast, hd⟩ := h.last
  have hfront : text.dropWhile isBlank = text := by simp [hhead, hc]
  have hback : text.reverse.dropWhile isBlank = text.reverse := by simp [hlast, hd]
  rw [trimBlanks, hfront, hback, List.reverse_reverse]

/-! ## §6. The pieces of a row of blocks. -/

namespace BareBlock

/-- The piece that is cut for a block. -/
def piece : BareBlock → Piece
  | .text t => .plain t.toList
  | block => .region block.code

theorem raw_piece (block : BareBlock) : block.piece.raw = block.written := by
  cases block <;> rfl

theorem piece_of_not_isText {block : BareBlock} (h : ¬ block.IsText) :
    block.piece = .region block.code ∧
      block.written = '{' :: '{' :: (block.code ++ ['}', '}']) := by
  cases block with
  | text t => exact absurd trivial h
  | value _ => exact ⟨rfl, rfl⟩
  | «variable» _ => exact ⟨rfl, rfl⟩
  | argument _ _ => exact ⟨rfl, rfl⟩
  | call _ => exact ⟨rfl, rfl⟩

/-- Behind any text a code block is cut off as one region. -/
theorem cutFrom_code {block : BareBlock} (h : block.WellFormed) (hcode : ¬ block.IsText)
    (before rest : List Char) :
    cutFrom .outside before [] (block.written ++ rest)
      = plain? before ++ block.piece :: cutFrom .outside [] [] rest := by
  obtain ⟨hpiece, hwritten⟩ := piece_of_not_isText hcode
  obtain ⟨c, tail, hhead, -, hbrace⟩ := (block.tight_code h hcode).head
  have hopen : (block.code ++ '}' :: '}' :: rest).head? ≠ some '{' := by simp [hhead, hbrace]
  have hsource : block.written ++ rest = '{' :: '{' :: (block.code ++ '}' :: '}' :: rest) := by
    simp [hwritten]
  rw [hsource, cutFrom_open before hopen, block.passes_code h before [] _ (by simp),
    cutFrom_close, hpiece]
  simp

/-- The text of a row of blocks that does not begin with plain text ends there or opens a
region. -/
theorem opens_of_apart {text : String} {blocks : List BareBlock}
    (h : (BareBlock.text text :: blocks).IsChain fun a b => ¬ (a.IsText ∧ b.IsText)) :
    blocks.flatMap (·.written) = [] ∨ ['{', '{'] <+: blocks.flatMap (·.written) := by
  cases blocks with
  | nil => exact .inl rfl
  | cons block rest =>
    have hcode : ¬ block.IsText := fun ht => (List.isChain_cons_cons.1 h).1 ⟨trivial, ht⟩
    refine .inr ⟨block.code ++ ['}', '}'] ++ rest.flatMap (·.written), ?_⟩
    rw [List.flatMap_cons, (piece_of_not_isText hcode).2]
    simp

/-- One piece is cut for each block; text that is held back goes before them, unless the first
block is text itself. -/
theorem cutFrom_written :
    ∀ (blocks : List BareBlock) (before : List Char), Writable blocks →
      (∀ block ∈ blocks.head?, block.IsText → before = []) →
      cutFrom .outside before [] (blocks.flatMap (·.written)) = plain? before ++ blocks.map piece
  | [], before, _, _ => by simp [cutFrom, held]
  | block :: blocks, before, h, hbefore => by
      have hblock : block.WellFormed := h.wellFormed block List.mem_cons_self
      have hrest : Writable blocks :=
        ⟨fun b hb => h.wellFormed b (List.mem_cons_of_mem _ hb), h.apart.tail⟩
      rw [List.flatMap_cons, List.map_cons]
      by_cases htext : block.IsText
      · cases block with
        | text t =>
          -- The text is held back from here on, and the block behind it is no text.
          obtain rfl := hbefore (.text t) rfl trivial
          have hnext : ∀ next ∈ blocks.head?, next.IsText → t.toList.reverse ++ [] = [] := by
            intro next hmem hnext
            obtain ⟨rest, rfl⟩ := List.head?_eq_some_iff.1 hmem
            exact absurd ⟨trivial, hnext⟩ (List.isChain_cons_cons.1 h.apart).1
          rw [show (BareBlock.text t).written = t.toList from rfl,
            cutFrom_text _ (opens_of_apart h.apart) t.toList [] hblock.2,
            cutFrom_written blocks _ hrest hnext]
          obtain ⟨c, tail, hcons⟩ := List.exists_cons_of_ne_nil hblock.1
          simp [plain?, piece, hcons]
        | value _ => exact absurd htext id
        | «variable» _ => exact absurd htext id
        | argument _ _ => exact absurd htext id
        | call _ => exact absurd htext id
      · -- A region gives up what was held back before it, so nothing is held back behind it.
        rw [cutFrom_code hblock htext, cutFrom_written blocks [] hrest fun _ _ _ => rfl]
        rfl

/-- **The template is cut into the blocks it was written for.** -/
theorem cut_writeAll {blocks : List BareBlock} (h : Writable blocks) :
    cut (writeAll blocks).toList = blocks.map piece := by
  rw [writeAll, String.toList_ofList, cut, cutFrom_written blocks [] h fun _ _ _ => rfl]
  rfl

end BareBlock

end PromptEngine
