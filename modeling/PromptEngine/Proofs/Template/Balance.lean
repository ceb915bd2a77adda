/-
  PromptEngine.Proofs.Template.Balance — no region ends inside a literal.

  A text is balanced if it closes every literal that it opens.  The interior of a region that the
  scanner cuts off is balanced (`balanced_of_mem_cut`), and in a balanced text the lexer finds no
  literal without its end (`terminated_lexFrom`).  None of the later steps of the reading reports
  one either, and so no template is refused for that (`Template.terminated_parse`).
-/
import PromptEngine.Proofs.Template.Grammar
import PromptEngine.Proofs.Template.Lexemes
import PromptEngine.Proofs.Template.Regions

namespace PromptEngine

open Piece Region

/-! ## §1. Balanced texts. -/

/-- Blanks open no literals. -/
theorem isQuote_of_isBlank {c : Char} (h : isBlank c = true) : isQuote c = false := by
  simp only [isBlank, Bool.or_eq_true, beq_iff_eq] at h
  rcases h with ((rfl | rfl) | rfl) | rfl <;> rfl

/-- Name characters open no literals. -/
theorem isQuote_of_isNameChar {c : Char} (h : isNameChar c = true) : isQuote c = false := by
  rw [Bool.eq_false_iff]
  intro hquote
  simp only [isQuote, Bool.or_eq_true, beq_iff_eq] at hquote
  rcases hquote with rfl | rfl <;> revert h <;> decide

/-- Every literal that is opened in the text is closed in it. -/
def Balanced (text : List Char) : Prop :=
  ∃ steps : List Step, (∀ step ∈ steps, step.Complete) ∧ text = spell steps

namespace Balanced

/-- Behind a character that is no quote, a balanced text is balanced. -/
theorem tail {c : Char} {text : List Char} (h : Balanced (c :: text)) (hc : isQuote c = false) :
    Balanced text := by
  obtain ⟨steps, hcomplete, htext⟩ := h
  rw [← List.append_nil (spell steps)] at htext
  obtain ⟨-, hnil⟩ | ⟨later, rfl, hlater⟩ := spell_append_eq_cons htext.symm hc
  · cases hnil
  · rw [List.append_nil] at hlater
    exact ⟨later, fun step hmem => hcomplete step (List.mem_cons_of_mem _ hmem), hlater.symm⟩

theorem of_append {front text : List Char} (h : Balanced (front ++ text))
    (hfront : ∀ c ∈ front, isQuote c = false) : Balanced text := by
  induction front with
  | nil => exact h
  | cons c front ih =>
      obtain ⟨hc, hfront'⟩ := List.forall_mem_cons.1 hfront
      exact ih (tail h hc) hfront'

/-- A quote in a balanced text opens a literal that is closed, and the text goes on balanced. -/
theorem literal {quote : Quote} {text : List Char} (h : Balanced (quote.char :: text)) :
    ∃ body rest, text = body ++ quote.char :: rest ∧ Literal.Enclosed quote.char body ∧
      Balanced rest := by
  obtain ⟨steps, hcomplete, htext⟩ := h
  cases steps with
  | nil => cases htext
  | cons step steps =>
      obtain ⟨hstep, hcomplete'⟩ := List.forall_mem_cons.1 hcomplete
      cases step with
      | char c =>
          obtain ⟨rfl, -⟩ := List.cons.inj htext
          have hquote : isQuote quote.char = false := hstep
          rw [isQuote_char] at hquote
          cases hquote
      | literal quote' body =>
          -- The two quotes are told apart by their characters.
          obtain ⟨hquote, hrest⟩ := List.cons.inj htext
          obtain rfl : quote = quote' := by
            cases quote <;> cases quote' <;> first | rfl | exact absurd hquote (by decide)
          refine ⟨body, spell steps, ?_, hstep, steps, hcomplete', rfl⟩
          rw [hrest]
          show (body ++ [quote.char]) ++ spell steps = _
          rw [List.append_assoc, List.singleton_append]

/-- A balanced text that ends with a character that is no quote is balanced without it. -/
theorem init {c : Char} {text : List Char} (h : Balanced (text ++ [c])) (hc : isQuote c = false) :
    Balanced text := by
  obtain ⟨steps, hcomplete, htext⟩ := h
  cases steps using List.reverseRecOn with
  | nil => simp at htext
  | append_singleton steps step _ =>
      have hstep := hcomplete step (by simp)
      cases step with
      | char d =>
          rw [spell_append] at htext
          obtain ⟨hinit, -⟩ := List.append_inj' htext rfl
          exact ⟨steps, fun s hs => hcomplete s (List.mem_append_left _ hs), hinit⟩
      | literal quote body =>
          -- The text would end with the quote of a literal.
          have hraw : text ++ [c] = spell steps ++ quote.char :: body ++ [quote.char] := by
            simpa [Step.raw] using htext
          obtain ⟨-, hlast⟩ := List.append_inj' hraw rfl
          obtain ⟨rfl, -⟩ := List.cons.inj hlast
          rw [isQuote_char] at hc
          cases hc

theorem of_append_blanks {text blanks : List Char} (hblanks : ∀ c ∈ blanks, isBlank c = true)
    (h : Balanced (text ++ blanks)) : Balanced text := by
  induction blanks using List.reverseRecOn with
  | nil => simpa using h
  | append_singleton blanks c ih =>
      have hc : isBlank c = true := hblanks c (by simp)
      rw [← List.append_assoc] at h
      exact ih (fun d hd => hblanks d (List.mem_append_left _ hd)) (h.init (isQuote_of_isBlank hc))

/-- A balanced text is balanced without the blanks at its ends. -/
theorem trimBlanks {text : List Char} (h : Balanced text) : Balanced (trimBlanks text) := by
  obtain ⟨blanks, hblanks, htext⟩ := eq_append_trimBlanks text
  rw [htext] at h
  refine of_append_blanks hblanks (h.of_append fun c hc => ?_)
  exact isQuote_of_isBlank (List.mem_takeWhile_imp hc)

/-- Behind a token a balanced text is balanced. -/
theorem of_spelt {token : Token} {front rest : List Char} (hspelt : token.Spelt front)
    (h : Balanced (front ++ rest)) : Balanced rest := by
  have name : ∀ {name : List Char}, name.all isNameChar = true → ∀ c ∈ name, isQuote c = false :=
    fun hall c hc => isQuote_of_isNameChar (List.all_eq_true.1 hall c hc)
  cases hspelt with
  | dot => exact h.tail rfl
  | equals => exact h.tail rfl
  | «variable» hname => exact of_append (h.tail rfl) (name hname)
  | word hc hname => exact of_append (h.tail (isQuote_of_isNameChar hc)) (name hname)
  | @literal quote body hbody =>
      rw [List.cons_append, List.append_assoc, List.singleton_append] at h
      obtain ⟨body', rest', htext, hbody', hrest'⟩ := h.literal
      -- Both contents end at the first quote that nothing protects.
      have hsplit := Literal.split_of_enclosed hbody rest
      rw [htext, Literal.split_of_enclosed hbody' rest'] at hsplit
      obtain ⟨-, rfl⟩ := Prod.mk.inj (Option.some.inj hsplit)
      exact hrest'

end Balanced

/-! ## §2. Regions are balanced. -/

/-- The first region of a text is balanced. -/
theorem Region.First.balanced {text front interior rest : List Char}
    (h : First text front interior rest) : Balanced interior := by
  obtain ⟨before, steps, skipped, inner, hreads, hlast, -, rfl⟩ := h
  exact ⟨inner, fun step hmem => hlast.complete hreads.complete step (List.mem_append_right _ hmem),
    rfl⟩

/-- **What the scanner cuts off is balanced.** -/
theorem balanced_of_mem_cut {interior : List Char} :
    ∀ text : List Char, Piece.region interior ∈ cut text → Balanced interior
  | text, h => by
      obtain ⟨front, first, rest, hfirst⟩ := exists_first_of_region h
      -- Either it is the first region, or it is cut off the shorter text behind the first one.
      have hlength : rest.length < text.length := by
        rw [hfirst.text_eq]
        simp only [List.length_append, List.length_cons]
        omega
      rw [cut_of_first hfirst] at h
      rcases List.mem_append.1 h with hmem | hmem
      · exact absurd hmem not_region_mem_plain?
      rcases List.mem_cons.1 hmem with heq | hmem
      · cases heq
        exact hfirst.balanced
      · exact balanced_of_mem_cut rest hmem
termination_by text => text.length

/-! ## §3. The lexer closes the literals of a balanced text. -/

/-- If the result is an error, its fault is no unterminated literal. -/
def Terminated {α : Type} (result : Except SyntaxError α) : Prop :=
  ∀ e, result = .error e → e.fault ≠ .unterminatedLiteral

namespace Terminated

variable {α β : Type} {result : Except SyntaxError α}

theorem ok (a : α) : Terminated (.ok a) := by
  intro e h
  cases h

theorem error {e : SyntaxError} (h : e.fault ≠ .unterminatedLiteral) :
    Terminated (.error e : Except SyntaxError α) := by
  rintro _ ⟨⟩
  exact h

theorem bind {next : α → Except SyntaxError β} (h : Terminated result)
    (hnext : ∀ a, Terminated (next a)) : Terminated (result >>= next) := by
  cases result with
  | ok a => exact hnext a
  | error e => exact error (h e rfl)

theorem map (h : Terminated result) (f : α → β) : Terminated (result.map f) := by
  cases result with
  | ok a => exact ok (f a)
  | error e => exact error (h e rfl)

theorem mapError {f : SyntaxError → SyntaxError} (hf : ∀ e, (f e).fault = e.fault)
    (h : Terminated result) : Terminated (result.mapError f) := by
  cases result with
  | ok a => exact ok a
  | error e =>
      refine error ?_
      rw [hf]
      exact h e rfl

end Terminated

/-- Only a quote leads to an unterminated literal. -/
theorem Token.split_of_read {c : Char} {text : List Char} {width : Nat}
    (h : Token.read c text = .fault .unterminatedLiteral width) :
    ∃ quote : Quote, c = quote.char ∧ Literal.split quote.char text = none := by
  have literal : ∀ quote : Quote, readLiteral quote text = .fault .unterminatedLiteral width →
      Literal.split quote.char text = none := by
    intro quote hread
    unfold readLiteral at hread
    split at hread
    · cases hread
    · assumption
  unfold Token.read at h
  split at h
  · cases h
  split at h
  · cases h
  split at h
  · cases h
  split at h
  · next hc => exact ⟨.single, beq_iff_eq.1 hc, literal .single h⟩
  split at h
  · next hc => exact ⟨.double, beq_iff_eq.1 hc, literal .double h⟩
  split at h <;> cases h

/-- In a balanced text no literal is unterminated. -/
theorem Token.read_ne_unterminated {c : Char} {text : List Char} (h : Balanced (c :: text))
    (width : Nat) : Token.read c text ≠ .fault .unterminatedLiteral width := by
  intro hread
  obtain ⟨quote, rfl, hsplit⟩ := Token.split_of_read hread
  obtain ⟨body, rest, rfl, hbody, -⟩ := h.literal
  rw [Literal.split_of_enclosed hbody rest] at hsplit
  cases hsplit

/-- **The lexer never finds an unterminated literal in a balanced text.** -/
theorem terminated_lexFrom (pos : Nat) (last : Option (Spanned Token)) (text : List Char)
    (h : Balanced text) : Terminated (lexFrom pos last text) := by
  fun_induction lexFrom pos last text with
  | case1 => exact .ok []
  | case2 pos last c text hblank ih => exact ih (h.tail (isQuote_of_isBlank hblank))
  | case3 pos last c text _ fault width hread =>
      -- Some character begins no token, but this is no quote.
      refine .error ?_
      rintro rfl
      exact Token.read_ne_unterminated h width hread
  | case4 => exact .error (by simp)
  | case5 pos last c text _ token width rest hread next _ ih =>
      obtain ⟨front, hspelt, htext, -, -⟩ := Token.spelt_of_read hread
      exact (ih (.of_spelt hspelt (htext ▸ h))).map _

/-! ## §4. Only the lexer finds unterminated literals. -/

namespace Code

/-- An error of the grammar is about a token or about the end of the block. -/
theorem terminated_unexpectedAt {α : Type} (behind : Span) (rest : List (Spanned Token))
    (expected : List Expectation) :
    Terminated (.error (unexpectedAt behind rest expected) : Except SyntaxError α) := by
  refine .error ?_
  cases rest <;> simp [unexpectedAt]

theorem terminated_readArguments (behind : Span) (here : List Expectation)
    (tokens : List (Spanned Token)) : Terminated (readArguments behind here tokens) := by
  fun_induction readArguments behind here tokens with
  | case1 => exact .ok []
  | case2 _ _ _ _ _ ih => exact ih.map _
  | case3 _ _ _ _ _ _ _ _ _ _ _ ih => exact ih.map _
  | case4 => exact terminated_unexpectedAt behind _ _
  | case5 => exact terminated_unexpectedAt behind _ _
  | case6 => exact terminated_unexpectedAt behind _ _
  | case7 => exact terminated_unexpectedAt behind _ _

theorem terminated_readAlone (behind : Span) (content : Content) (rest : List (Spanned Token)) :
    Terminated (readAlone behind content rest) := by
  cases rest with
  | nil => exact .ok content
  | cons token rest => exact terminated_unexpectedAt behind (token :: rest) _

theorem terminated_read (behind : Span) (tokens : List (Spanned Token)) :
    Terminated (Code.read behind tokens) := by
  fun_cases Code.read behind tokens with
  | case1 => exact terminated_readAlone behind _ _
  | case2 => exact terminated_readAlone behind _ _
  | case3 => exact (terminated_readArguments behind _ _).map _
  | case4 => exact terminated_unexpectedAt behind _ _
  | case5 => exact (terminated_readArguments behind _ _).map _
  | case6 => exact terminated_unexpectedAt behind _ _

theorem terminated_checkOperand (operand : Spanned Operand) :
    Terminated (checkOperand operand) := by
  unfold checkOperand
  split
  · exact .error (by simp)
  · exact .ok ()

theorem terminated_arrange (arguments : List CallArgument) :
    ∀ positional named, Terminated (arrange positional named arguments) := by
  induction arguments with
  | nil => exact fun positional named => .ok _
  | cons argument arguments ih =>
      intro positional named
      cases argument with
      | positional operand =>
          refine (terminated_checkOperand operand).bind fun _ => ?_
          split
          · exact ih (operand :: positional) named
          · exact .error (by simp)
      | named argument =>
          refine (terminated_checkOperand argument.node.operand).bind fun _ => ?_
          dsimp only
          split
          · exact .error (by simp)
          · exact ih positional (named.insert _ argument)

theorem terminated_check (content : Content) : Terminated (check content) := by
  cases content with
  | value v => exact .ok _
  | «variable» name => exact (terminated_checkOperand _).bind fun _ => .ok _
  | invocation function arguments =>
      exact (terminated_arrange arguments [] .empty).bind fun _ => .ok _

/-- **Balanced code has no unterminated literal.** -/
theorem terminated_parse {code : String} (h : Balanced code.toList) (offset : Nat) :
    Terminated (Code.parse code offset) := by
  refine .mapError (fun e => rfl) ?_
  refine (terminated_lexFrom offset none code.toList h).bind fun tokens => ?_
  exact (terminated_read _ tokens).bind terminated_check

end Code

/-- What is read for a region that the scanner cuts off has no unterminated literal. -/
theorem Piece.terminated_block {piece : Piece}
    (h : ∀ interior, piece = .region interior → Balanced interior) (pos : Nat) :
    Terminated (piece.block pos) := by
  cases piece with
  | plain text => exact .ok _
  | region interior =>
      unfold Piece.block
      dsimp only
      split
      · exact .ok _
      · refine Code.terminated_parse ?_ _
        rw [String.toList_ofList]
        exact (h interior rfl).trimBlanks

theorem terminated_blocksFrom {pieces : List Piece}
    (h : ∀ interior, Piece.region interior ∈ pieces → Balanced interior) :
    ∀ pos, Terminated (blocksFrom pos pieces) := by
  induction pieces with
  | nil => exact fun pos => .ok []
  | cons piece pieces ih =>
      intro pos
      have hpiece : ∀ interior, piece = .region interior → Balanced interior := by
        rintro interior rfl
        exact h interior List.mem_cons_self
      have hpieces := ih fun interior hmem => h interior (List.mem_cons_of_mem _ hmem)
      rw [blocksFrom]
      refine (Piece.terminated_block hpiece pos).bind fun block => ?_
      exact (hpieces _).bind fun more => .ok _

/-- **No template fails for an unterminated literal.** -/
theorem Template.terminated_parse (source : String) : Terminated (Template.parse source) :=
  (terminated_blocksFrom (fun _ => balanced_of_mem_cut source.toList) 0).bind fun _ => .ok _

end PromptEngine
