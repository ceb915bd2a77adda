/-
  PromptEngine.Proofs.Template.Lexing — tokens that are written are read back.

  `Token.written` is a token's text.  The reading of one token gives back the token and what
  follows it (`Token.read_written`), whatever a literal holds.  A whole text is put together from
  two kinds of parts:

    • `Starts text tokens` — the text can stand where a new token may begin,
    • `Follows text tokens` — the text can stand directly behind any token,

  and each step from one kind to the other is one lemma.  Main fact: the code of a well-formed
  block is read as the block's tokens (`BareBlock.starts_code`, `lex_of_starts`).
-/
import PromptEngine.Proofs.Template.Bare

namespace PromptEngine

/-! ## §1. Literals. -/

namespace Literal

@[simp] theorem escape_nil (quote : Char) : escape quote [] = [] := rfl

theorem escape_cons (quote c : Char) (text : List Char) :
    escape quote (c :: text)
      = (if c = '\\' ∨ c = quote then ['\\', c] else [c]) ++ escape quote text := rfl

/-- An escaped character stands for itself. -/
theorem unescape_protected {c : Char} (h : isEscapable c = true) (text : List Char) :
    unescape ('\\' :: c :: text) = c :: unescape text := by
  rw [unescape, if_pos h]

/-- A character other than the backslash stands for itself. -/
theorem unescape_plain {c : Char} (h : c ≠ '\\') (text : List Char) :
    unescape (c :: text) = c :: unescape text := by
  cases text <;> simp [unescape, h]

/-- **Escaping is undone**, for either quote and for every text. -/
theorem unescape_escape (quote : Quote) (text : List Char) :
    unescape (escape quote.char text) = text := by
  induction text with
  | nil => rfl
  | cons c text ih =>
    rw [escape_cons]
    by_cases h : c = '\\' ∨ c = quote.char
    · -- Both characters that are written with a backslash are read without it.
      have hc : isEscapable c = true := by
        rcases h with rfl | rfl
        · rfl
        · cases quote <;> rfl
      rw [if_pos h]
      show unescape ('\\' :: c :: escape quote.char text) = _
      rw [unescape_protected hc, ih]
    · rw [if_neg h]
      show unescape (c :: escape quote.char text) = _
      rw [unescape_plain (fun e => h (.inl e)), ih]

/-- A protected character does not close the literal. -/
theorem split_protected (quote c : Char) (text : List Char) :
    split quote ('\\' :: c :: text)
      = (split quote text).map fun (body, after) => ('\\' :: c :: body, after) := by
  rw [split]

/-- A character that is neither the quote nor a backslash does not close the literal. -/
theorem split_plain {quote c : Char} (hq : c ≠ quote) (hb : c ≠ '\\') (text : List Char) :
    split quote (c :: text)
      = (split quote text).map fun (body, after) => (c :: body, after) := by
  cases text <;> simp [split, hq, hb]

/-- The quote closes the literal. -/
theorem split_close (quote : Quote) (text : List Char) :
    split quote.char (quote.char :: text) = some ([], text) := by
  have hb : quote.char ≠ '\\' := by cases quote <;> decide
  cases text <;> simp [split, hb]

/-- **A literal ends at its own quote**: none of the escaped characters closes it. -/
theorem split_escape (quote : Quote) (text rest : List Char) :
    split quote.char (escape quote.char text ++ quote.char :: rest)
      = some (escape quote.char text, rest) := by
  induction text with
  | nil => exact split_close quote rest
  | cons c text ih =>
    rw [escape_cons]
    by_cases h : c = '\\' ∨ c = quote.char
    · -- The backslash and the character behind it are passed over together.
      rw [if_pos h]
      show split quote.char ('\\' :: c :: (escape quote.char text ++ quote.char :: rest)) = _
      rw [split_protected, ih]
      rfl
    · rw [if_neg h]
      show split quote.char (c :: (escape quote.char text ++ quote.char :: rest)) = _
      rw [split_plain (fun e => h (.inr e)) (fun e => h (.inl e)), ih]
      rfl

end Literal

/-! ## §2. One token. -/

theorem Quote.utf8Size_char (quote : Quote) : quote.char.utf8Size = 1 := by
  cases quote <;> rfl

/-- A name that is cut off a text ends where the text goes on with something else. -/
theorem takeWhile_name {name rest : List Char} (hname : name.all isNameChar = true)
    (hrest : ∀ c ∈ rest.head?, isNameChar c = false) :
    (name ++ rest).takeWhile isNameChar = name ∧ (name ++ rest).dropWhile isNameChar = rest := by
  induction name with
  | nil =>
    cases rest with
    | nil => exact ⟨rfl, rfl⟩
    | cons c rest =>
      have hc : isNameChar c = false := hrest c rfl
      simp [hc]
  | cons c name ih =>
    simp only [List.all_cons, Bool.and_eq_true] at hname
    obtain ⟨htake, hdrop⟩ := ih hname.2
    simp [hname.1, htake, hdrop]

/-- The characters of an identifier: there is one, and all of them are name characters. -/
theorem isIdentifier_iff (text : String) :
    isIdentifier text = true ↔ text.toList ≠ [] ∧ text.toList.all isNameChar = true := by
  unfold isIdentifier
  cases h : text.toList <;> simp

namespace Token

/-- A token as it is written. -/
def written : Token → List Char
  | .dot => ['.']
  | .equals => ['=']
  | .variable name => '$' :: name.toList
  | .word w => w.toList
  | .literal quote t => quote.char :: (Literal.escape quote.char t.toList ++ [quote.char])

/-- Words and names have to be made of name characters; a word cannot be empty. -/
def Lexable : Token → Prop
  | .variable name => name.toList.all isNameChar = true
  | .word w => isIdentifier w = true
  | _ => True

theorem isBlank_of_isNameChar {c : Char} (h : isNameChar c = true) : isBlank c = false := by
  rw [Bool.eq_false_iff]
  intro hb
  simp only [isBlank, Bool.or_eq_true, beq_iff_eq] at hb
  rcases hb with ((rfl | rfl) | rfl) | rfl <;> revert h <;> decide

/-- A name character begins a word. -/
theorem read_word {c : Char} (h : isNameChar c = true) (text : List Char) :
    read c text = .token (.word (String.ofList (c :: text.takeWhile isNameChar)))
      (byteSize (c :: text.takeWhile isNameChar)) (text.dropWhile isNameChar) := by
  have other : ∀ d : Char, isNameChar d = false → (c == d) = false := by
    intro d hd
    rw [beq_eq_false_iff_ne]
    rintro rfl
    rw [h] at hd
    exact Bool.noConfusion hd
  simp [read, other '.' (by decide), other '=' (by decide), other '$' (by decide),
    other '\'' (by decide), other '"' (by decide), h]

/-- A quote begins a literal. -/
theorem read_quote (quote : Quote) (text : List Char) :
    read quote.char text = readLiteral quote text := by
  cases quote <;> rfl

/-- A token ends where `rest` begins: a name does not go on there. -/
def EndsBefore (rest : List Char) : Token → Prop
  | .variable _ | .word _ => ∀ c ∈ rest.head?, isNameChar c = false
  | _ => True

/-- **A token that is written is read back**, with what follows it. -/
theorem read_written {token : Token} {rest : List Char} (h : token.Lexable)
    (hend : token.EndsBefore rest) :
    ∃ c text, token.written = c :: text ∧ isBlank c = false ∧
      read c (text ++ rest) = .token token (byteSize token.written) rest := by
  cases token with
  | dot => exact ⟨'.', [], rfl, rfl, rfl⟩
  | equals => exact ⟨'=', [], rfl, rfl, rfl⟩
  | «variable» name =>
    obtain ⟨htake, hdrop⟩ := takeWhile_name h hend
    refine ⟨'$', name.toList, rfl, rfl, ?_⟩
    show Front.token (.variable (String.ofList ((name.toList ++ rest).takeWhile isNameChar)))
      (1 + byteSize ((name.toList ++ rest).takeWhile isNameChar))
      ((name.toList ++ rest).dropWhile isNameChar) = _
    rw [htake, hdrop, String.ofList_toList]
    rfl
  | word w =>
    -- The first character decides that a word is read; it belongs to the word itself.
    obtain ⟨hne, hall⟩ := (isIdentifier_iff w).1 h
    obtain ⟨c, text, hw⟩ := List.exists_cons_of_ne_nil hne
    rw [hw, List.all_cons, Bool.and_eq_true] at hall
    obtain ⟨htake, hdrop⟩ := takeWhile_name hall.2 hend
    refine ⟨c, text, hw, isBlank_of_isNameChar hall.1, ?_⟩
    rw [read_word hall.1, htake, hdrop, ← hw, String.ofList_toList]
    rfl
  | literal quote t =>
    refine ⟨quote.char, _, rfl, by cases quote <;> rfl, ?_⟩
    rw [read_quote, readLiteral, List.append_assoc, List.singleton_append,
      Literal.split_escape]
    simp only [Literal.unescape_escape, String.ofList_toList, written, byteSize_cons,
      byteSize_append, byteSize_nil, Quote.utf8Size_char]
    congr 1
    omega

end Token

/-! ## §3. Rows of tokens. -/

/-- Blanks are skipped. -/
theorem lexFrom_blank {c : Char} (h : isBlank c = true) (pos : Nat)
    (last : Option (Spanned Token)) (text : List Char) :
    lexFrom pos last (c :: text) = lexFrom (pos + 1) last text := by
  rw [lexFrom, if_pos h]

/-- What begins no token is an error. -/
theorem lexFrom_fault {c : Char} {text : List Char} {fault : SyntaxFault} {width : Nat}
    (hblank : isBlank c = false) (h : Token.read c text = .fault fault width) (pos : Nat)
    (last : Option (Spanned Token)) :
    lexFrom pos last (c :: text) = .error { span := ⟨pos, pos + width⟩, fault } := by
  rw [lexFrom, if_neg (by simp [hblank])]
  split
  · next h' =>
    rw [h] at h'
    cases h'
    rfl
  · next h' =>
    rw [h] at h'
    cases h'

/-- A token must not touch the one before, and the rest is read behind it. -/
theorem lexFrom_token {c : Char} {text rest : List Char} {token : Token} {width : Nat}
    (hblank : isBlank c = false) (h : Token.read c text = .token token width rest) (pos : Nat)
    (last : Option (Spanned Token)) :
    lexFrom pos last (c :: text)
      = match touching last ⟨token, ⟨pos, pos + width⟩⟩ with
        | some span => .error { span, fault := .unseparated }
        | none => (lexFrom (pos + width) (some ⟨token, ⟨pos, pos + width⟩⟩) rest).map
            (⟨token, ⟨pos, pos + width⟩⟩ :: ·) := by
  rw [lexFrom, if_neg (by simp [hblank])]
  split
  · next h' =>
    rw [h] at h'
    cases h'
  · next h' =>
    rw [h] at h'
    cases h'
    rfl

/-- Reading a text from `pos` on, behind the token `last`, gives these tokens. -/
def Lexes (pos : Nat) (last : Option (Spanned Token)) (text : List Char) (tokens : List Token) :
    Prop :=
  ∃ spanned, lexFrom pos last text = .ok spanned ∧ spanned.map (·.node) = tokens

/-- Another token may begin at `pos`: the last one ends before, or it is punctuation. -/
def Loose (pos : Nat) (last : Option (Spanned Token)) : Prop :=
  ∀ token ∈ last, token.span.stop < pos ∨ token.node.isPunctuation = true

/-- The text can stand wherever a token may begin. -/
def Starts (text : List Char) (tokens : List Token) : Prop :=
  ∀ pos last, Loose pos last → Lexes pos last text tokens

/-- The text can stand directly behind any token. -/
structure Follows (text : List Char) (tokens : List Token) : Prop where
  stops : ∀ c ∈ text.head?, isNameChar c = false
  lexes : ∀ pos last, last.span.stop ≤ pos → Lexes pos (some last) text tokens

/-- Where a token may begin, no token touches the last one. -/
theorem touching_of_loose {pos stop : Nat} {last : Option (Spanned Token)} (h : Loose pos last)
    (token : Token) : touching last ⟨token, ⟨pos, stop⟩⟩ = none := by
  cases last with
  | none => rfl
  | some last =>
    rcases h last rfl with hlt | hpunct
    · simp [touching, show last.span.stop ≠ pos by omega]
    · simp [touching, hpunct]

/-- Punctuation touches nothing. -/
theorem touching_punctuation {token : Token} (h : token.isPunctuation = true)
    (last : Option (Spanned Token)) (span : Span) : touching last ⟨token, span⟩ = none := by
  cases last <;> simp [touching, h]

/-- Any token ends before a text that can follow it. -/
theorem Follows.endsBefore {rest : List Char} {tokens : List Token} (h : Follows rest tokens)
    (token : Token) : token.EndsBefore rest := by
  cases token <;> first | exact h.stops | trivial

/-- One step of the reading: a token that is written, and the rest behind it. -/
theorem lexes_written {pos : Nat} {last : Option (Spanned Token)} {token : Token}
    {rest : List Char} {tokens : List Token} (h : token.Lexable) (hend : token.EndsBefore rest)
    (free : touching last ⟨token, ⟨pos, pos + byteSize token.written⟩⟩ = none)
    (hrest : Lexes (pos + byteSize token.written)
      (some ⟨token, ⟨pos, pos + byteSize token.written⟩⟩) rest tokens) :
    Lexes pos last (token.written ++ rest) (token :: tokens) := by
  obtain ⟨c, text, hw, hblank, hread⟩ := Token.read_written h hend
  obtain ⟨spanned, hlex, hmap⟩ := hrest
  refine ⟨⟨token, ⟨pos, pos + byteSize token.written⟩⟩ :: spanned, ?_, by simp [hmap]⟩
  rw [hw] at hread hlex free ⊢
  rw [List.cons_append, lexFrom, if_neg (by simp [hblank])]
  -- The reader may report a fault or a token; what is known of it rules the fault out.
  split
  · next hfault =>
    rw [hread] at hfault
    cases hfault
  · next htoken =>
    rw [hread] at htoken
    cases htoken
    simp only [free, hlex]
    rfl

/-- A token, and something that follows it. -/
theorem Starts.token (token : Token) {rest : List Char} {tokens : List Token}
    (h : token.Lexable) (hrest : Follows rest tokens) :
    Starts (token.written ++ rest) (token :: tokens) :=
  fun _ _ loose => lexes_written h (hrest.endsBefore token) (touching_of_loose loose token)
    (hrest.lexes _ _ (Nat.le_refl _))

/-- Nothing can stand anywhere. -/
theorem Starts.nil : Starts [] [] :=
  fun _ _ _ => ⟨[], by rw [lexFrom], rfl⟩

/-- Nothing follows any token. -/
theorem Follows.nil : Follows [] [] :=
  ⟨by simp, fun _ _ _ => ⟨[], by rw [lexFrom], rfl⟩⟩

/-- Behind a space another token may begin. -/
theorem Follows.space {rest : List Char} {tokens : List Token} (h : Starts rest tokens) :
    Follows (' ' :: rest) tokens where
  stops := by simp [show isNameChar ' ' = false by decide]
  lexes pos last hle := by
    -- Behind the space the position is past the end of the last token.
    obtain ⟨spanned, hlex, hmap⟩ := h (pos + 1) (some last) (by
      rintro token ⟨⟩
      exact .inl (by omega))
    refine ⟨spanned, ?_, hmap⟩
    rw [lexFrom, if_pos (by decide)]
    exact hlex

/-- A punctuation mark follows any token, and behind it another token may begin. -/
theorem Follows.punctuation {mark : Token} {rest : List Char} {tokens : List Token}
    (hmark : mark.isPunctuation = true) (h : Starts rest tokens) :
    Follows (mark.written ++ rest) (mark :: tokens) where
  stops := by
    cases mark <;> simp_all [Token.isPunctuation, Token.written] <;> decide
  lexes pos last _ := by
    have hend : mark.EndsBefore rest := by cases mark <;> simp_all [Token.isPunctuation,
      Token.EndsBefore]
    have hlex : mark.Lexable := by cases mark <;> simp_all [Token.isPunctuation, Token.Lexable]
    refine lexes_written hlex hend (touching_punctuation hmark (some last) _) ?_
    refine h _ _ ?_
    rintro token ⟨⟩
    exact .inr hmark

/-- A text that can stand anywhere is a whole block. -/
theorem lex_of_starts {code : List Char} {tokens : List Token} (h : Starts code tokens)
    (offset : Nat) : ∃ spanned, lex code offset = .ok spanned ∧ spanned.map (·.node) = tokens :=
  h offset none (by simp [Loose])

/-! ## §4. Well-formed blocks. -/

theorem Operand.written_eq (operand : Operand) : operand.written = operand.token.written := by
  cases operand <;> rfl

theorem Operand.lexable_token {operand : Operand} (h : operand.WellFormed) :
    operand.token.Lexable := by
  cases operand with
  | value _ => trivial
  | «variable» name => exact ((isIdentifier_iff name).1 h).2

/-- An operand starts a text, whatever follows it. -/
theorem Operand.starts {operand : Operand} {rest : List Char} {tokens : List Token}
    (h : operand.WellFormed) (hrest : Follows rest tokens) :
    Starts (operand.written ++ rest) (operand.token :: tokens) := by
  rw [operand.written_eq]
  exact Starts.token operand.token (operand.lexable_token h) hrest

/-- A word, a punctuation mark and something else start a text. -/
theorem starts_word_mark (mark : Token) {word : String} {rest : List Char} {tokens : List Token}
    (h : isIdentifier word = true) (hmark : mark.isPunctuation = true)
    (hrest : Starts rest tokens) :
    Starts (word.toList ++ (mark.written ++ rest)) (.word word :: mark :: tokens) :=
  Starts.token (.word word) h (Follows.punctuation hmark hrest)

/-- The names of an argument have to be identifiers. -/
def BareArgument.WellFormed : BareArgument → Prop
  | .positional operand => operand.WellFormed
  | .named name operand => isIdentifier name = true ∧ operand.WellFormed

theorem BareCall.WellFormed.arguments {call : BareCall} (h : call.WellFormed) :
    ∀ argument ∈ call.arguments, argument.WellFormed := by
  intro argument hmem
  simp only [BareCall.arguments, List.mem_append, List.mem_map] at hmem
  rcases hmem with ⟨operand, hop, rfl⟩ | ⟨⟨name, operand⟩, hn, rfl⟩
  · exact h.positional operand hop
  · exact h.named (name, operand) hn

theorem BareArgument.starts {argument : BareArgument} {rest : List Char} {tokens : List Token}
    (h : argument.WellFormed) (hrest : Follows rest tokens) :
    Starts (argument.written ++ rest) (argument.tokens ++ tokens) := by
  cases argument with
  | positional operand => exact operand.starts h hrest
  | named name operand =>
    have := starts_word_mark .equals h.1 rfl (operand.starts h.2 hrest)
    simpa [BareArgument.written, BareArgument.tokens, Token.written] using this

/-- Arguments with a space before each follow any token. -/
theorem follows_arguments {arguments : List BareArgument}
    (h : ∀ argument ∈ arguments, argument.WellFormed) :
    Follows (arguments.flatMap fun a => ' ' :: a.written) (arguments.flatMap (·.tokens)) := by
  induction arguments with
  | nil => exact Follows.nil
  | cons argument rest ih =>
    have hrest := ih fun a ha => h a (List.mem_cons_of_mem _ ha)
    rw [List.flatMap_cons, List.flatMap_cons]
    exact Follows.space (argument.starts (h argument List.mem_cons_self) hrest)

/-- A reference is its name, after the collection and a dot if it has one. -/
theorem FunctionRef.toList_toText (f : FunctionRef) :
    f.toText.toList
      = (match f.collection with
          | some collection => collection.toList ++ ['.']
          | none => []) ++ f.name.toList := by
  obtain ⟨collection, name⟩ := f
  cases collection with
  | none => rfl
  | some collection =>
    show (collection ++ "." ++ name).toList = _
    simp

theorem FunctionRef.starts {f : FunctionRef} {rest : List Char} {tokens : List Token}
    (hc : ∀ collection ∈ f.collection, isIdentifier collection = true)
    (hn : isIdentifier f.name = true) (hrest : Follows rest tokens) :
    Starts (f.toText.toList ++ rest) (f.tokens ++ tokens) := by
  obtain ⟨collection, name⟩ := f
  have hname : Starts (name.toList ++ rest) (.word name :: tokens) :=
    Starts.token (.word name) hn hrest
  cases collection with
  | none => exact hname
  | some collection =>
    have := starts_word_mark .dot (hc collection rfl) rfl hname
    simpa [FunctionRef.toList_toText, FunctionRef.tokens, Token.written] using this

/-- **The code of a block is read as the block's tokens.** -/
theorem BareBlock.starts_code {block : BareBlock} (h : block.WellFormed) :
    Starts block.code block.tokens := by
  have operand : ∀ o : Operand, o.WellFormed → Starts o.written [o.token] := by
    intro o ho
    have := o.starts ho Follows.nil
    rwa [List.append_nil] at this
  cases block with
  | text t => exact Starts.nil
  | value v => exact operand (.value v) trivial
  | «variable» name => exact operand (.variable name) h
  | argument name o => exact h.elim
  | call c => exact FunctionRef.starts h.collection h.name (follows_arguments h.arguments)

end PromptEngine
