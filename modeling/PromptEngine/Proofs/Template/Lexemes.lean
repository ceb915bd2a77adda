/-
  PromptEngine.Proofs.Template.Lexemes — what the lexer reads, said without the lexer.

  `Token.Spelt` says which characters spell a token; a literal has many spellings.  `Lexed` says
  which rows of tokens a text spells: each token where it begins, blanks between, and no two words
  in touch.  Main facts:

    • `Token.spelt_of_read`, `Token.read_of_spelt` — a token is read where it is spelt and ends,
    • `lexFrom_eq_ok_iff` — the lexer reads a text exactly as the tokens that it spells,
    • `Lexed.of_append_blanks` — blanks behind a text add nothing to it.
-/
import Mathlib.Data.List.TakeWhile
import PromptEngine.Proofs.Template.Literals

namespace PromptEngine

/-! ## §1. Spellings of a token. -/

/-- The characters spell the token. -/
inductive Token.Spelt : Token → List Char → Prop
  | dot : Spelt .dot ['.']
  | equals : Spelt .equals ['=']
  | variable {name : List Char} (h : name.all isNameChar = true) :
      Spelt (.variable (String.ofList name)) ('$' :: name)
  | word {c : Char} {name : List Char} (hc : isNameChar c = true)
      (h : name.all isNameChar = true) : Spelt (.word (String.ofList (c :: name))) (c :: name)
  | literal {quote : Quote} {body : List Char} (h : Literal.Enclosed quote.char body) :
      Spelt (.literal quote (String.ofList (Literal.unescape body)))
        (quote.char :: (body ++ [quote.char]))

namespace Token

theorem isBlank_quote (quote : Quote) : isBlank quote.char = false := by
  cases quote <;> rfl

/-- A token begins with a character that is no blank. -/
theorem Spelt.head {token : Token} {front : List Char} (h : Spelt token front) :
    ∃ c text, front = c :: text ∧ isBlank c = false := by
  cases h with
  | dot => exact ⟨'.', [], rfl, rfl⟩
  | equals => exact ⟨'=', [], rfl, rfl⟩
  | «variable» _ => exact ⟨'$', _, rfl, rfl⟩
  | word hc _ => exact ⟨_, _, rfl, isBlank_of_isNameChar hc⟩
  | @literal quote _ _ => exact ⟨quote.char, _, rfl, isBlank_quote quote⟩

/-- A token ends with a character that is no blank. -/
theorem Spelt.getLast {token : Token} {front : List Char} (h : Spelt token front) :
    ∀ c ∈ front.getLast?, isBlank c = false := by
  -- All characters of a word are name characters, and so is the last one.
  have name : ∀ {name : List Char}, name.all isNameChar = true →
      ∀ c ∈ name.getLast?, isBlank c = false := fun hall c hc =>
    isBlank_of_isNameChar (List.all_eq_true.1 hall c (List.mem_of_getLast? hc))
  cases h with
  | dot => simp [isBlank]
  | equals => simp [isBlank]
  | @«variable» text h =>
      rw [List.getLast?_cons]
      cases htext : text.getLast? with
      | none => simp [isBlank]
      | some c =>
          have := name h c htext
          simpa using this
  | word hc h => exact name (by rw [List.all_cons, hc, h]; rfl)
  | @literal quote body _ =>
      rw [← List.cons_append, List.getLast?_append]
      simpa using isBlank_quote quote

/-- Names are spelled with name characters, and a word with one at least. -/
theorem Spelt.lexable {token : Token} {front : List Char} (h : Spelt token front) :
    token.Lexable := by
  cases h with
  | dot => trivial
  | equals => trivial
  | literal _ => trivial
  | @«variable» name h =>
      show (String.ofList name).toList.all isNameChar = true
      rwa [String.toList_ofList]
  | @word c name hc h =>
      show isIdentifier (String.ofList (c :: name)) = true
      rw [isIdentifier_iff, String.toList_ofList, List.all_cons, hc, h]
      exact ⟨List.cons_ne_nil c name, rfl⟩

/-! ## §2. One token. -/

/-- What is left behind a name does not begin with a name character. -/
theorem head?_dropWhile_isNameChar (text : List Char) :
    ∀ c ∈ (text.dropWhile isNameChar).head?, isNameChar c = false := by
  intro c hc
  have := List.head?_dropWhile_not isNameChar text
  rw [hc] at this
  simpa using this

/-- A token that is read stands at the front of the text and ends there. -/
theorem spelt_of_read {c : Char} {text rest : List Char} {token : Token} {width : Nat}
    (h : read c text = .token token width rest) :
    ∃ front, Spelt token front ∧ c :: text = front ++ rest ∧ width = byteSize front ∧
      token.EndsBefore rest := by
  have literal : ∀ quote : Quote, readLiteral quote text = .token token width rest →
      ∃ front, Spelt token front ∧ quote.char :: text = front ++ rest ∧ width = byteSize front ∧
        token.EndsBefore rest := by
    intro quote hread
    unfold readLiteral at hread
    split at hread
    · next body after hsplit =>
      obtain ⟨hbody, rfl⟩ := Literal.enclosed_of_split hsplit
      cases hread
      refine ⟨quote.char :: (body ++ [quote.char]), .literal hbody, by simp, ?_, trivial⟩
      simp only [byteSize_cons, byteSize_append, byteSize_nil, Quote.utf8Size_char]
      omega
    · cases hread
  have hsplit : text = text.takeWhile isNameChar ++ text.dropWhile isNameChar :=
    List.takeWhile_append_dropWhile.symm
  -- The first character decides: a mark, a dollar sign, one of the quotes, or the front of a word.
  unfold read at h
  split at h
  · next hc =>
    obtain rfl := beq_iff_eq.1 hc
    cases h
    exact ⟨['.'], .dot, rfl, rfl, trivial⟩
  split at h
  · next hc =>
    obtain rfl := beq_iff_eq.1 hc
    cases h
    exact ⟨['='], .equals, rfl, rfl, trivial⟩
  split at h
  · next hc =>
    obtain rfl := beq_iff_eq.1 hc
    cases h
    exact ⟨'$' :: text.takeWhile isNameChar, .variable List.all_takeWhile,
      by rw [List.cons_append, ← hsplit], rfl, head?_dropWhile_isNameChar text⟩
  split at h
  · next hc =>
    obtain rfl := beq_iff_eq.1 hc
    exact literal .single h
  split at h
  · next hc =>
    obtain rfl := beq_iff_eq.1 hc
    exact literal .double h
  split at h
  · next hc =>
    cases h
    exact ⟨c :: text.takeWhile isNameChar, .word hc List.all_takeWhile,
      by rw [List.cons_append, ← hsplit], rfl, head?_dropWhile_isNameChar text⟩
  · cases h

/-- A token that is spelt at the front of the text and ends there is read. -/
theorem read_of_spelt {c : Char} {text front rest : List Char} {token : Token}
    (h : Spelt token front) (hend : token.EndsBefore rest) (htext : c :: text = front ++ rest) :
    read c text = .token token (byteSize front) rest := by
  cases h with
  | dot =>
      cases htext
      rfl
  | equals =>
      cases htext
      rfl
  | @«variable» name hname =>
      obtain ⟨rfl, rfl⟩ := List.cons.inj htext
      obtain ⟨htake, hdrop⟩ := takeWhile_name hname hend
      show Front.token (.variable (String.ofList ((name ++ rest).takeWhile isNameChar)))
        (1 + byteSize ((name ++ rest).takeWhile isNameChar))
        ((name ++ rest).dropWhile isNameChar) = _
      rw [htake, hdrop]
      rfl
  | @word d name hd hname =>
      obtain ⟨rfl, rfl⟩ := List.cons.inj htext
      obtain ⟨htake, hdrop⟩ := takeWhile_name hname hend
      show read c (name ++ rest) = _
      rw [read_word hd, htake, hdrop]
  | @literal quote body hbody =>
      obtain ⟨rfl, rfl⟩ := List.cons.inj htext
      show read quote.char ((body ++ [quote.char]) ++ rest) = _
      rw [read_quote, readLiteral, List.append_assoc, List.singleton_append,
        Literal.split_of_enclosed hbody]
      simp only [byteSize_cons, byteSize_append, byteSize_nil, Quote.utf8Size_char]
      congr 1
      omega

end Token

/-! ## §3. Rows of tokens. -/

/-- The text, which begins at byte `pos` behind the token `last`, spells the tokens. -/
inductive Lexed : Nat → Option (Spanned Token) → List Char → List (Spanned Token) → Prop
  | nil {pos : Nat} {last : Option (Spanned Token)} : Lexed pos last [] []
  | blank {pos : Nat} {last : Option (Spanned Token)} {c : Char} {text : List Char}
      {tokens : List (Spanned Token)} (h : isBlank c = true)
      (more : Lexed (pos + 1) last text tokens) : Lexed pos last (c :: text) tokens
  | token {pos : Nat} {last : Option (Spanned Token)} {token : Token} {front rest : List Char}
      {tokens : List (Spanned Token)} (spelt : token.Spelt front) (ends : token.EndsBefore rest)
      (apart : touching last ⟨token, ⟨pos, pos + byteSize front⟩⟩ = none)
      (more : Lexed (pos + byteSize front) (some ⟨token, ⟨pos, pos + byteSize front⟩⟩) rest
        tokens) :
      Lexed pos last (front ++ rest) (⟨token, ⟨pos, pos + byteSize front⟩⟩ :: tokens)

/-- The tokens that the lexer reads are spelt by the text. -/
theorem lexed_of_lexFrom (pos : Nat) (last : Option (Spanned Token)) (text : List Char) :
    ∀ tokens, lexFrom pos last text = .ok tokens → Lexed pos last text tokens := by
  fun_induction lexFrom pos last text with
  | case1 =>
      intro tokens h
      cases h
      exact .nil
  | case2 pos last c text hblank ih =>
      intro tokens h
      exact .blank hblank (ih tokens h)
  | case3 =>
      intro tokens h
      cases h
  | case4 =>
      intro tokens h
      cases h
  | case5 pos last c text _ token width rest hread next happart ih =>
      intro tokens h
      -- The rest is read behind this token, and an error there would be an error of the whole.
      obtain ⟨front, hspelt, htext, rfl, hend⟩ := Token.spelt_of_read hread
      cases hrest : lexFrom (pos + byteSize front) (some next) rest with
      | error e =>
          rw [hrest] at h
          cases h
      | ok more =>
          rw [hrest] at h
          cases h
          rw [htext]
          exact .token hspelt hend happart (ih more hrest)

/-- The lexer reads the tokens that a text spells. -/
theorem lexFrom_of_lexed {pos : Nat} {last : Option (Spanned Token)} {text : List Char}
    {tokens : List (Spanned Token)} (h : Lexed pos last text tokens) :
    lexFrom pos last text = .ok tokens := by
  induction h with
  | nil => rw [lexFrom]
  | blank hblank _ ih => rw [lexFrom_blank hblank, ih]
  | token spelt ends apart _ ih =>
      obtain ⟨c, text, rfl, hblank⟩ := spelt.head
      have hread := Token.read_of_spelt spelt ends List.cons_append.symm
      rw [List.cons_append, lexFrom_token hblank hread, apart]
      show (lexFrom _ _ _).map _ = _
      rw [ih]
      rfl

/-- **The lexer reads a text exactly as the tokens that it spells.** -/
theorem lexFrom_eq_ok_iff {pos : Nat} {last : Option (Spanned Token)} {text : List Char}
    {tokens : List (Spanned Token)} :
    lexFrom pos last text = .ok tokens ↔ Lexed pos last text tokens :=
  ⟨lexed_of_lexFrom pos last text tokens, lexFrom_of_lexed⟩

/-- The names among the tokens that a text spells are made of name characters. -/
theorem Lexed.lexable {pos : Nat} {last : Option (Spanned Token)} {text : List Char}
    {tokens : List (Spanned Token)} (h : Lexed pos last text tokens) :
    ∀ token ∈ tokens, token.node.Lexable := by
  induction h with
  | nil => exact List.forall_mem_nil _
  | blank _ _ ih => exact ih
  | token spelt _ _ _ ih => exact List.forall_mem_cons.2 ⟨spelt.lexable, ih⟩

/-! ## §4. Blanks around a text. -/

theorem utf8Size_of_isBlank {c : Char} (h : isBlank c = true) : c.utf8Size = 1 := by
  simp only [isBlank, Bool.or_eq_true, beq_iff_eq] at h
  rcases h with ((rfl | rfl) | rfl) | rfl <;> rfl

/-- Blanks before a text only move it. -/
theorem lexFrom_blanks_append {blanks : List Char} (h : ∀ c ∈ blanks, isBlank c = true)
    (pos : Nat) (last : Option (Spanned Token)) (text : List Char) :
    lexFrom pos last (blanks ++ text) = lexFrom (pos + byteSize blanks) last text := by
  induction blanks generalizing pos with
  | nil => rfl
  | cons c blanks ih =>
      obtain ⟨hc, hblanks⟩ := List.forall_mem_cons.1 h
      rw [List.cons_append, lexFrom_blank hc, ih hblanks, byteSize_cons, utf8Size_of_isBlank hc,
        Nat.add_assoc]

/-- A token that ends before a text ends before a front of it. -/
theorem Token.EndsBefore.of_append {token : Token} {text more : List Char}
    (h : EndsBefore (text ++ more) token) : EndsBefore text token := by
  have head : (∀ c ∈ (text ++ more).head?, isNameChar c = false) →
      ∀ c ∈ text.head?, isNameChar c = false := by
    intro hend c hc
    obtain ⟨rest, rfl⟩ := List.head?_eq_some_iff.1 hc
    exact hend c rfl
  cases token with
  | word _ => exact head h
  | «variable» _ => exact head h
  | dot => trivial
  | equals => trivial
  | literal _ _ => trivial

/-- A text without characters spells no tokens. -/
theorem Lexed.eq_nil {pos : Nat} {last : Option (Spanned Token)} {tokens : List (Spanned Token)}
    (h : Lexed pos last [] tokens) : tokens = [] := by
  have := lexFrom_of_lexed h
  rw [lexFrom] at this
  cases this
  rfl

/-- A token that a text with blanks behind it begins with is spelt before the blanks. -/
theorem Token.Spelt.eq_append {token : Token} {front rest text blanks : List Char}
    (h : Spelt token front) (hblanks : ∀ c ∈ blanks, isBlank c = true)
    (htext : text ++ blanks = front ++ rest) :
    ∃ more, text = front ++ more ∧ rest = more ++ blanks := by
  obtain ⟨more, hfront, hrest⟩ | ⟨more, hfront, hrest⟩ := List.append_eq_append_iff.1 htext
  · -- The token would end among the blanks.
    cases more using List.reverseRecOn with
    | nil => exact ⟨[], by simpa using hfront.symm, by simpa using hrest.symm⟩
    | append_singleton more c _ =>
        have hlast : isBlank c = false := h.getLast c (by simp [hfront])
        have hc : isBlank c = true := hblanks c (by simp [hrest])
        rw [hlast] at hc
        cases hc
  · exact ⟨more, hfront, hrest⟩

/-- **Blanks behind a text add nothing**: the text spells the same tokens without them. -/
theorem Lexed.of_append_blanks {pos : Nat} {last : Option (Spanned Token)} {whole : List Char}
    {tokens : List (Spanned Token)} (h : Lexed pos last whole tokens) {text blanks : List Char}
    (hblanks : ∀ c ∈ blanks, isBlank c = true) (hwhole : whole = text ++ blanks) :
    Lexed pos last text tokens := by
  induction h generalizing text blanks with
  | nil =>
      obtain ⟨rfl, -⟩ := List.append_eq_nil_iff.1 hwhole.symm
      exact .nil
  | @blank pos last c more tokens hblank _ ih =>
      cases text with
      | nil =>
          -- Nothing but blanks is left, and blanks spell no token.
          obtain rfl : c :: more = blanks := hwhole
          have hnone := ih (List.forall_mem_cons.1 hblanks).2 (List.nil_append more).symm
          obtain rfl := hnone.eq_nil
          exact .nil
      | cons d text =>
          obtain ⟨rfl, hrest⟩ := List.cons.inj hwhole
          exact .blank hblank (ih hblanks hrest)
  | token spelt ends apart _ ih =>
      -- The token stands before the blanks, and it still ends there without them.
      obtain ⟨more, rfl, rfl⟩ := spelt.eq_append hblanks hwhole.symm
      exact .token spelt ends.of_append apart (ih hblanks rfl)

/-! ## §5. Trimming. -/

/-- Trimming takes blanks off both ends. -/
theorem eq_append_trimBlanks (text : List Char) :
    ∃ blanks, (∀ c ∈ blanks, isBlank c = true) ∧
      text = text.takeWhile isBlank ++ (trimBlanks text ++ blanks) := by
  refine ⟨((text.dropWhile isBlank).reverse.takeWhile isBlank).reverse, ?_, ?_⟩
  · intro c hc
    exact List.mem_takeWhile_imp (List.mem_reverse.1 hc)
  · rw [trimBlanks, ← List.reverse_append, List.takeWhile_append_dropWhile, List.reverse_reverse,
      List.takeWhile_append_dropWhile]

/-- Blanks around a text are trimmed with its own. -/
theorem trimBlanks_append {left right : List Char} (hleft : ∀ c ∈ left, isBlank c = true)
    (hright : ∀ c ∈ right, isBlank c = true) (text : List Char) :
    trimBlanks (left ++ text ++ right) = trimBlanks text := by
  have hright' : ∀ c ∈ right.reverse, isBlank c = true := fun c hc =>
    hright c (List.mem_reverse.1 hc)
  rw [trimBlanks, List.append_assoc, List.dropWhile_append_of_pos hleft, List.dropWhile_append]
  by_cases hnone : text.dropWhile isBlank = []
  · -- Nothing but blanks on the whole.
    rw [hnone]
    simp [trimBlanks, hnone, List.dropWhile_eq_nil_iff.2 hright]
  · rw [if_neg (by simpa using hnone), List.reverse_append, List.dropWhile_append_of_pos hright',
      trimBlanks]

/-- Nothing is left of a text without the blanks at its ends just if it is blank. -/
theorem trimBlanks_eq_nil_iff {text : List Char} :
    trimBlanks text = [] ↔ ∀ c ∈ text, isBlank c = true := by
  constructor
  · intro h
    obtain ⟨blanks, hblanks, htext⟩ := eq_append_trimBlanks text
    rw [h, List.nil_append] at htext
    rw [htext]
    refine List.forall_mem_append.mpr ⟨?_, hblanks⟩
    intro c hc
    exact List.mem_takeWhile_imp hc
  · intro h
    rw [trimBlanks, List.dropWhile_eq_nil_iff.mpr h]
    rfl

/-- The blanks at the front of a text with blanks before it, if something else is in it. -/
theorem takeWhile_append_blanks {left : List Char} (hleft : ∀ c ∈ left, isBlank c = true)
    {text : List Char} (htext : trimBlanks text ≠ []) (right : List Char) :
    (left ++ text ++ right).takeWhile isBlank = left ++ text.takeWhile isBlank := by
  have hlength : ¬ (text.takeWhile isBlank).length = text.length := by
    intro hlength
    refine htext ?_
    have hall : text.takeWhile isBlank = text :=
      (List.takeWhile_prefix isBlank).eq_of_length hlength
    have hnone : text.dropWhile isBlank = [] := by
      rw [List.dropWhile_eq_nil_iff, ← List.takeWhile_eq_self_iff]
      exact hall
    rw [trimBlanks, hnone]
    rfl
  rw [List.append_assoc, List.takeWhile_append_of_pos hleft, List.takeWhile_append, if_neg hlength]

end PromptEngine
