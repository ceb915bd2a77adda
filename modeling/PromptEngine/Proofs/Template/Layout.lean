/-
  PromptEngine.Proofs.Template.Layout — which rows of tokens the lexer finds in a text.

  §1 to §3 say how tokens may lie in a text, without reading it from the left: each stands where its
  own characters are, nothing but blanks is left between them, they follow one another without
  overlap, and two of them touch only if one is punctuation.  Nothing is said of longest matches.

  A text has at most one such layout, and the lexer finds it:

    • `lexeme_iff_spelt` — the characters of a token, said in two ways,
    • `Lexed.laid` — what the lexer reads is laid out in the text,
    • `Laid.starts` — the first token of a layout begins at the first character that is no blank,
      and the others lie behind it,
    • `Laid.lexed` — so the lexer reads whatever is laid out.

  Main result: `lex_layout`.
-/
import Mathlib
import PromptEngine.Proofs.Template.Lexemes

namespace PromptEngine

/-! ## §1. Literals and tokens. -/

/-- The characters between two quotes and the text they stand for.  A backslash takes the character
behind it along: quotes and backslashes are then meant themselves, and before any other character
the backslash is kept. -/
inductive Literal.Spells (quote : Char) : List Char → List Char → Prop
  | nil : Spells quote [] []
  | plain {c : Char} {body text : List Char} (hquote : c ≠ quote) (hback : c ≠ '\\')
      (more : Spells quote body text) : Spells quote (c :: body) (c :: text)
  | collapsed {c : Char} {body text : List Char} (h : c = '\'' ∨ c = '"' ∨ c = '\\')
      (more : Spells quote body text) : Spells quote ('\\' :: c :: body) (c :: text)
  | kept {c : Char} {body text : List Char} (h : ¬ (c = '\'' ∨ c = '"' ∨ c = '\\'))
      (more : Spells quote body text) : Spells quote ('\\' :: c :: body) ('\\' :: c :: text)

/-- The characters are those of the token. -/
inductive Token.Lexeme : Token → List Char → Prop
  | dot : Lexeme .dot ['.']
  | equals : Lexeme .equals ['=']
  | variable {name : List Char} (h : ∀ c ∈ name, isNameChar c = true) :
      Lexeme (.variable (String.ofList name)) ('$' :: name)
  | word {name : List Char} (hne : name ≠ []) (h : ∀ c ∈ name, isNameChar c = true) :
      Lexeme (.word (String.ofList name)) name
  | literal {quote : Quote} {body text : List Char} (h : Literal.Spells quote.char body text) :
      Lexeme (.literal quote (String.ofList text)) (quote.char :: (body ++ [quote.char]))

/-! ## §2. Places. -/

/-- In a text that begins at byte `start`, the bytes of the span are those of `part`. -/
def Occupies (start : Nat) (text : List Char) (span : Span) (part : List Char) : Prop :=
  ∃ front back, text = front ++ part ++ back ∧
    span = ⟨start + byteSize front, start + byteSize (front ++ part)⟩

/-- The byte lies in the span. -/
def Span.Covers (span : Span) (pos : Nat) : Prop :=
  span.start ≤ pos ∧ pos < span.stop

/-! ## §3. Layouts. -/

/-- The tokens lie in the text, which begins at byte `start`. -/
structure Laid (start : Nat) (text : List Char) (tokens : List (Spanned Token)) : Prop where
  /-- Each token stands at its own characters. -/
  lexeme : ∀ token ∈ tokens, ∃ part, Occupies start text token.span part ∧ token.node.Lexeme part
  nonempty : ∀ token ∈ tokens, token.span.start < token.span.stop
  /-- A token ends before the later ones begin. -/
  ordered : tokens.Pairwise fun a b => a.span.stop ≤ b.span.start
  /-- What belongs to no token is blank. -/
  blank : ∀ front c back, text = front ++ c :: back →
    (∀ token ∈ tokens, ¬ token.span.Covers (start + byteSize front)) → isBlank c = true
  /-- Neighbours touch only where one of them is punctuation. -/
  apart : tokens.IsChain fun a b => a.span.stop = b.span.start →
    a.node.isPunctuation = true ∨ b.node.isPunctuation = true

/-! ## §4. The characters of a token. -/

namespace Literal

theorem isEscapable_iff {c : Char} : isEscapable c = true ↔ c = '\'' ∨ c = '"' ∨ c = '\\' := by
  unfold isEscapable
  simp [or_assoc]

/-- What stands for a text can be enclosed in quotes, and the text is what is read from it. -/
theorem Spells.enclosed {quote : Quote} {body text : List Char}
    (h : Spells quote.char body text) : Enclosed quote.char body ∧ text = unescape body := by
  have hquotes : ∀ c : Char, c = quote.char → c = '\'' ∨ c = '"' ∨ c = '\\' := by
    intro c hc
    subst hc
    cases quote with
    | single => exact Or.inl rfl
    | double => exact Or.inr (Or.inl rfl)
  induction h with
  | nil => exact ⟨.nil, rfl⟩
  | plain hquote hback _ ih =>
      obtain ⟨hbody, rfl⟩ := ih
      exact ⟨.plain hquote hback hbody, (unescape_plain hback _).symm⟩
  | @collapsed c body _ hc _ ih =>
      obtain ⟨hbody, rfl⟩ := ih
      refine ⟨?_, (unescape_protected (isEscapable_iff.mpr hc) _).symm⟩
      by_cases hown : c = quote.char ∨ c = '\\'
      · exact .escaped hown hbody
      · -- The other quote needs no backslash, but it may have one.
        rw [not_or] at hown
        exact .backslash hown.1 hown.2 (.plain hown.1 hown.2 hbody)
  | @kept c body _ hc _ ih =>
      obtain ⟨hbody, rfl⟩ := ih
      have hback : c ≠ '\\' := fun e => hc (Or.inr (Or.inr e))
      have hquote : c ≠ quote.char := fun e => hc (hquotes c e)
      refine ⟨.backslash hquote hback (.plain hquote hback hbody), ?_⟩
      have hplain : isEscapable c = false := by
        rw [Bool.eq_false_iff]
        exact fun e => hc (isEscapable_iff.mp e)
      rw [unescape, hplain, unescape_plain hback]
      rfl

/-- What can be enclosed in quotes stands for what the reader makes of it. -/
theorem Enclosed.spells {quote : Char} :
    ∀ {body : List Char}, Enclosed quote body → Spells quote body (unescape body)
  | [], _ => .nil
  | [c], h => by
      cases h with
      | plain hquote hback _ =>
          rw [unescape_plain hback]
          exact .plain hquote hback .nil
  | c :: d :: body, h => by
      by_cases hback : c = '\\'
      · subst hback
        -- The backslash takes `d` along, and the rest behind it is enclosed as well.
        have hbody : Enclosed quote body := by
          cases h with
          | plain _ hback _ => exact absurd rfl hback
          | escaped _ more => exact more
          | backslash hquote hback more =>
              cases more with
              | plain _ _ more => exact more
              | escaped _ _ => exact absurd rfl hback
              | backslash _ _ _ => exact absurd rfl hback
        by_cases hd : d = '\'' ∨ d = '"' ∨ d = '\\'
        · rw [unescape_protected (isEscapable_iff.mpr hd)]
          exact .collapsed hd hbody.spells
        · have hplain : isEscapable d = false := by
            rw [Bool.eq_false_iff]
            exact fun e => hd (isEscapable_iff.mp e)
          have htext : unescape ('\\' :: d :: body) = '\\' :: d :: unescape body := by
            rw [unescape, hplain, unescape_plain fun e => hd (Or.inr (Or.inr e))]
            rfl
          rw [htext]
          exact .kept hd hbody.spells
      · cases h with
        | plain hquote _ more =>
            rw [unescape_plain hback]
            exact .plain hquote hback more.spells
        | escaped _ _ => exact absurd rfl hback
        | backslash _ _ _ => exact absurd rfl hback

end Literal

/-- **The two ways to say which characters spell a token are one.** -/
theorem Token.lexeme_iff_spelt {token : Token} {part : List Char} :
    token.Lexeme part ↔ token.Spelt part := by
  constructor
  · intro h
    cases h with
    | dot => exact .dot
    | equals => exact .equals
    | «variable» hname => exact .variable (List.all_eq_true.mpr hname)
    | word hne hname =>
        obtain ⟨c, name, rfl⟩ := List.exists_cons_of_ne_nil hne
        obtain ⟨hc, hrest⟩ := List.forall_mem_cons.mp hname
        exact .word hc (List.all_eq_true.mpr hrest)
    | literal hbody =>
        obtain ⟨henclosed, rfl⟩ := hbody.enclosed
        exact .literal henclosed
  · intro h
    cases h with
    | dot => exact .dot
    | equals => exact .equals
    | «variable» hname => exact .variable (List.all_eq_true.mp hname)
    | word hc hname =>
        exact .word (List.cons_ne_nil _ _)
          (List.forall_mem_cons.mpr ⟨hc, List.all_eq_true.mp hname⟩)
    | literal hbody => exact .literal hbody.spells

/-! ## §5. Places in a row. -/

theorem byteSize_of_isBlank {c : Char} (h : isBlank c = true) : byteSize [c] = 1 := by
  rw [byteSize_cons, utf8Size_of_isBlank h]
  rfl

/-- Of two fronts of a text the one with fewer bytes is a front of the other. -/
theorem exists_append_of_byteSize_le {front text front' rest : List Char}
    (h : front ++ text = front' ++ rest) (hle : byteSize front ≤ byteSize front') :
    ∃ more, front' = front ++ more ∧ text = more ++ rest := by
  rcases List.append_eq_append_iff.mp h with ⟨more, hfront, htext⟩ | ⟨more, hfront, htext⟩
  · exact ⟨more, hfront, htext⟩
  · -- The other way round the two fronts are the same.
    have hsize : byteSize more = 0 := by
      rw [hfront, byteSize_append] at hle
      omega
    have hnil : more = [] := by
      by_contra hne
      have := byteSize_pos hne
      omega
    subst hnil
    rw [List.append_nil] at hfront
    exact ⟨[], by simp [hfront], by simpa using htext.symm⟩

namespace Occupies

variable {start : Nat} {text part : List Char} {span : Span}

theorem start_le (h : Occupies start text span part) : start ≤ span.start := by
  obtain ⟨front, back, -, rfl⟩ := h
  exact Nat.le_add_right _ _

/-- A place in the rest of a text is a place in the whole. -/
theorem append {front : List Char} (h : Occupies (start + byteSize front) text span part) :
    Occupies start (front ++ text) span part := by
  obtain ⟨between, back, rfl, rfl⟩ := h
  refine ⟨front ++ between, back, by simp, ?_⟩
  simp only [byteSize_append, Nat.add_assoc]

/-- A place that begins behind a front of the text is a place in the rest. -/
theorem of_append {front : List Char} (h : Occupies start (front ++ text) span part)
    (hle : start + byteSize front ≤ span.start) :
    Occupies (start + byteSize front) text span part := by
  obtain ⟨before, back, htext, rfl⟩ := h
  have hsize : byteSize front ≤ byteSize before := by
    have hle' : start + byteSize front ≤ start + byteSize before := hle
    omega
  rw [List.append_assoc] at htext
  obtain ⟨between, rfl, rfl⟩ := exists_append_of_byteSize_le htext hsize
  refine ⟨between, back, by simp, ?_⟩
  simp only [byteSize_append, Nat.add_assoc]

/-- A place at the start of the text is a front of it. -/
theorem front (h : Occupies start text span part) (hstart : span.start = start) :
    ∃ back, text = part ++ back ∧ span = ⟨start, start + byteSize part⟩ := by
  obtain ⟨before, back, rfl, rfl⟩ := h
  have hnil : before = [] := by
    by_contra hne
    have hpos := byteSize_pos hne
    have hstart' : start + byteSize before = start := hstart
    omega
  subst hnil
  exact ⟨back, rfl, rfl⟩

end Occupies

/-! ## §6. What is read is laid out. -/

theorem touching_eq_none_iff {a b : Spanned Token} :
    touching (some a) b = none ↔
      (a.span.stop = b.span.start → a.node.isPunctuation = true ∨ b.node.isPunctuation = true) := by
  unfold touching
  by_cases hstop : a.span.stop = b.span.start
  · cases ha : a.node.isPunctuation <;> simp [hstop, ha]
  · simp [hstop]

namespace Laid

variable {start : Nat} {text : List Char} {tokens : List (Spanned Token)}

theorem nil : Laid start [] [] where
  lexeme := List.forall_mem_nil _
  nonempty := List.forall_mem_nil _
  ordered := List.Pairwise.nil
  blank front c back h _ := absurd h.symm (by simp)
  apart := .nil

/-- A blank in front of a text belongs to no token. -/
theorem cons_blank {c : Char} (hc : isBlank c = true) (h : Laid (start + 1) text tokens) :
    Laid start (c :: text) tokens where
  lexeme token htoken := by
    obtain ⟨part, hpart, hlexeme⟩ := h.lexeme token htoken
    rw [← byteSize_of_isBlank hc] at hpart
    exact ⟨part, hpart.append, hlexeme⟩
  nonempty := h.nonempty
  ordered := h.ordered
  blank front d back htext hfree := by
    cases front with
    | nil =>
        obtain ⟨rfl, -⟩ := List.cons.inj htext
        exact hc
    | cons e front =>
        obtain ⟨rfl, hrest⟩ := List.cons.inj htext
        apply h.blank front d back hrest
        rwa [byteSize_cons, utf8Size_of_isBlank hc, ← Nat.add_assoc] at hfree
  apart := h.apart

/-- A token in front of a text is laid out with the others if it may touch the first of them. -/
theorem cons {token : Token} {front : List Char} (hspelt : token.Spelt front)
    (h : Laid (start + byteSize front) text tokens)
    (hfree : ∀ first ∈ tokens.head?,
      touching (some ⟨token, ⟨start, start + byteSize front⟩⟩) first = none) :
    Laid start (front ++ text) (⟨token, ⟨start, start + byteSize front⟩⟩ :: tokens) where
  lexeme := by
    refine List.forall_mem_cons.mpr
      ⟨⟨front, ⟨[], text, rfl, rfl⟩, Token.lexeme_iff_spelt.mpr hspelt⟩, ?_⟩
    intro other hother
    obtain ⟨part, hpart, hlexeme⟩ := h.lexeme other hother
    exact ⟨part, hpart.append, hlexeme⟩
  nonempty := by
    refine List.forall_mem_cons.mpr ⟨?_, h.nonempty⟩
    obtain ⟨c, rest, rfl, -⟩ := hspelt.head
    have := byteSize_pos (List.cons_ne_nil c rest)
    show start < start + byteSize (c :: rest)
    omega
  ordered := by
    refine List.pairwise_cons.mpr ⟨?_, h.ordered⟩
    intro other hother
    obtain ⟨part, hpart, -⟩ := h.lexeme other hother
    exact hpart.start_le
  blank before c back htext hfree := by
    obtain ⟨hfirst, hothers⟩ := List.forall_mem_cons.mp hfree
    -- The character is none of the token, so it stands behind it.
    have hsize : byteSize front ≤ byteSize before := by
      by_contra hlt
      apply hfirst
      refine ⟨Nat.le_add_right _ _, ?_⟩
      show start + byteSize before < start + byteSize front
      omega
    obtain ⟨between, rfl, rfl⟩ := exists_append_of_byteSize_le htext hsize
    apply h.blank between c back rfl
    rwa [byteSize_append, ← Nat.add_assoc] at hothers
  apart := by
    cases tokens with
    | nil => exact .singleton _
    | cons first tokens => exact .cons_cons (touching_eq_none_iff.mp (hfree first rfl)) h.apart

end Laid

/-- **What the lexer reads is laid out in the text**, and the token before it does not touch the
first one. -/
theorem Lexed.laid {pos : Nat} {last : Option (Spanned Token)} {text : List Char}
    {tokens : List (Spanned Token)} (h : Lexed pos last text tokens) :
    Laid pos text tokens ∧ ∀ first ∈ tokens.head?, touching last first = none := by
  induction h with
  | nil => exact ⟨Laid.nil, by simp⟩
  | blank hblank _ ih => exact ⟨ih.1.cons_blank hblank, ih.2⟩
  | token spelt _ apart _ ih =>
      refine ⟨ih.1.cons spelt ih.2, ?_⟩
      intro first hfirst
      obtain rfl := Option.some.inj hfirst
      exact apart

/-! ## §7. What is laid out is read. -/

namespace Laid

variable {start : Nat} {text : List Char} {tokens : List (Spanned Token)}

/-- Where a front of the text and the tokens in it are left out, the others are laid out in the
rest. -/
theorem of_append {front : List Char} {before : List (Spanned Token)}
    (h : Laid start (front ++ text) (before ++ tokens))
    (hbefore : ∀ token ∈ before, token.span.stop ≤ start + byteSize front)
    (hbehind : ∀ token ∈ tokens, start + byteSize front ≤ token.span.start) :
    Laid (start + byteSize front) text tokens where
  lexeme token htoken := by
    obtain ⟨part, hpart, hlexeme⟩ := h.lexeme token (List.mem_append_right _ htoken)
    exact ⟨part, hpart.of_append (hbehind token htoken), hlexeme⟩
  nonempty token htoken := h.nonempty token (List.mem_append_right _ htoken)
  ordered := (List.pairwise_append.mp h.ordered).2.1
  blank between c back htext hfree := by
    apply h.blank (front ++ between) c back
    · rw [htext, List.append_assoc]
    · rw [byteSize_append, ← Nat.add_assoc]
      intro token htoken
      rcases List.mem_append.mp htoken with hleft | hright
      · -- The character stands behind all that is left out.
        have hstop := hbefore token hleft
        intro hcovers
        have hpos := hcovers.2
        omega
      · exact hfree token hright
  apart := h.apart.right_of_append

theorem start_le (h : Laid start text tokens) : ∀ token ∈ tokens, start ≤ token.span.start := by
  intro token htoken
  obtain ⟨part, hpart, -⟩ := h.lexeme token htoken
  exact hpart.start_le

/-- Nothing is laid out in a text without characters. -/
theorem eq_nil (h : Laid start [] tokens) : tokens = [] := by
  apply List.eq_nil_iff_forall_not_mem.mpr
  intro token htoken
  obtain ⟨part, ⟨front, back, htext, -⟩, hlexeme⟩ := h.lexeme token htoken
  obtain ⟨c, rest, rfl, -⟩ := (Token.lexeme_iff_spelt.mp hlexeme).head
  exact absurd htext.symm (by simp)

/-- No token begins with a blank. -/
theorem of_cons_blank {c : Char} (hc : isBlank c = true) (h : Laid start (c :: text) tokens) :
    Laid (start + 1) text tokens := by
  have hcut : Laid start ([c] ++ text) ([] ++ tokens) := h
  rw [← byteSize_of_isBlank hc]
  refine hcut.of_append (List.forall_mem_nil _) ?_
  intro token htoken
  obtain ⟨part, ⟨front, back, htext, hspan⟩, hlexeme⟩ := h.lexeme token htoken
  rw [hspan]
  show start + byteSize [c] ≤ start + byteSize front
  cases front with
  | nil =>
      -- The token would begin with the blank.
      obtain ⟨d, rest, rfl, hd⟩ := (Token.lexeme_iff_spelt.mp hlexeme).head
      obtain ⟨rfl, -⟩ := List.cons.inj htext
      rw [hd] at hc
      contradiction
  | cons d front =>
      obtain ⟨rfl, -⟩ := List.cons.inj htext
      rw [byteSize_cons, byteSize_cons]
      exact Nat.add_le_add_left (Nat.add_le_add_left (Nat.zero_le _) _) _

/-- **At a character that is no blank the first token begins**, and the others lie behind it. -/
theorem starts {c : Char} (hc : isBlank c = false) (h : Laid start (c :: text) tokens) :
    ∃ token part back more, tokens = ⟨token, ⟨start, start + byteSize part⟩⟩ :: more ∧
      c :: text = part ++ back ∧ token.Lexeme part ∧ Laid (start + byteSize part) back more := by
  -- The character belongs to some token, since it is no blank.
  obtain ⟨owner, howner, hcovers⟩ : ∃ token ∈ tokens, token.span.Covers start := by
    by_contra hnone
    have hblank := h.blank [] c text rfl fun token htoken hcovers => hnone ⟨token, htoken, hcovers⟩
    rw [hblank] at hc
    contradiction
  cases tokens with
  | nil => contradiction
  | cons first more =>
      obtain ⟨hfirst, hmore⟩ := List.forall_mem_cons.mp h.nonempty
      obtain ⟨hbefore, hordered⟩ := List.pairwise_cons.mp h.ordered
      have hle : start ≤ first.span.start := h.start_le first List.mem_cons_self
      -- A later token begins behind the first one, and so behind the character.
      have hown : owner = first := by
        rcases List.mem_cons.mp howner with heq | hlater
        · exact heq
        · have hstop := hbefore owner hlater
          have hstart := hcovers.1
          omega
      subst hown
      obtain ⟨part, hpart, hlexeme⟩ := h.lexeme owner List.mem_cons_self
      obtain ⟨back, htext, hspan⟩ := hpart.front (Nat.le_antisymm hcovers.1 hle)
      obtain ⟨token, span⟩ := owner
      subst hspan
      refine ⟨token, part, back, more, rfl, htext, hlexeme, ?_⟩
      have hcut : Laid start (part ++ back) ([⟨token, ⟨start, start + byteSize part⟩⟩] ++ more) :=
        htext ▸ h
      refine hcut.of_append ?_ hbefore
      intro other hother
      rw [List.mem_singleton.mp hother]

/-- Where a token ends in a layout, it cannot go on: a name would go on in the next token. -/
theorem endsBefore {token : Token} {more : List (Spanned Token)}
    (h : Laid start text more)
    (hapart : ∀ next ∈ more.head?, next.span.start = start →
      token.isPunctuation = true ∨ next.node.isPunctuation = true) :
    token.EndsBefore text := by
  have hnext : token.isPunctuation = false → ∀ d ∈ text.head?, isNameChar d = false := by
    intro hmark d hd
    obtain ⟨rest, rfl⟩ := List.head?_eq_some_iff.mp hd
    by_contra hname
    rw [Bool.not_eq_false] at hname
    -- A name character would begin the next token, and that would touch this one.
    obtain ⟨next, part, back, more, rfl, htext, hlexeme, -⟩ :=
      h.starts (Token.isBlank_of_isNameChar hname)
    rcases hapart _ rfl rfl with hown | hother
    · rw [hown] at hmark
      contradiction
    · cases hlexeme with
      | dot =>
          obtain ⟨rfl, -⟩ := List.cons.inj htext
          contradiction
      | equals =>
          obtain ⟨rfl, -⟩ := List.cons.inj htext
          contradiction
      | _ => contradiction
  cases token with
  | dot => trivial
  | equals => trivial
  | literal _ _ => trivial
  | «variable» _ => exact hnext rfl
  | word _ => exact hnext rfl

end Laid

/-- **What is laid out in a text is read**, behind any token that the first one may touch. -/
theorem Laid.lexed {start : Nat} {last : Option (Spanned Token)} {text : List Char}
    {tokens : List (Spanned Token)} (h : Laid start text tokens)
    (hfree : ∀ first ∈ tokens.head?, touching last first = none) :
    Lexed start last text tokens := by
  -- A token is taken off whole, so the induction is on the length of what is left.
  induction hsize : text.length using Nat.strong_induction_on
    generalizing start last text tokens with
  | _ size ih =>
    subst hsize
    cases text with
    | nil =>
        rw [h.eq_nil]
        exact .nil
    | cons c text =>
        by_cases hc : isBlank c = true
        · exact .blank hc (ih _ (Nat.lt_succ_self _) (h.of_cons_blank hc) hfree rfl)
        · rw [Bool.not_eq_true] at hc
          obtain ⟨token, part, back, more, rfl, htext, hlexeme, hmore⟩ := h.starts hc
          have hspelt := Token.lexeme_iff_spelt.mp hlexeme
          have hlength : back.length < (c :: text).length := by
            obtain ⟨d, rest, rfl, -⟩ := hspelt.head
            rw [htext, List.length_append, List.length_cons]
            omega
          have hnext : ∀ next ∈ more.head?,
              touching (some ⟨token, ⟨start, start + byteSize part⟩⟩) next = none := by
            intro next hnext
            obtain ⟨later, rfl⟩ := List.head?_eq_some_iff.mp hnext
            have hapart := h.apart
            rw [List.isChain_cons_cons] at hapart
            exact touching_eq_none_iff.mpr hapart.1
          have hends : token.EndsBefore back := by
            apply hmore.endsBefore
            intro next hmem hstart
            exact touching_eq_none_iff.mp (hnext next hmem) hstart.symm
          have hrest := ih back.length hlength hmore hnext rfl
          rw [htext]
          exact .token hspelt hends (hfree _ rfl) hrest

/-- The lexer reads a text as the tokens that are laid out in it. -/
theorem lexFrom_eq_ok_iff_laid {start : Nat} {text : List Char} {tokens : List (Spanned Token)} :
    lexFrom start none text = .ok tokens ↔ Laid start text tokens := by
  rw [lexFrom_eq_ok_iff]
  constructor
  · intro h
    exact h.laid.1
  · intro h
    exact h.lexed fun _ _ => rfl

/-! ## §8. The whole. -/

/-- A quoted value is written with the characters of its token. -/
theorem QuotedValue.lexeme_written (v : QuotedValue) :
    (Token.literal v.quote v.value).Lexeme v.written := by
  have hsplit := Literal.split_escape v.quote v.value.toList []
  obtain ⟨henclosed, -⟩ := Literal.enclosed_of_split hsplit
  have hspelt : (Token.literal v.quote
      (String.ofList (Literal.unescape (Literal.escape v.quote.char v.value.toList)))).Spelt
      v.written := .literal henclosed
  rw [Literal.unescape_escape, String.ofList_toList] at hspelt
  exact Token.lexeme_iff_spelt.mpr hspelt

/-- **The lexer is exact.**  Wherever a text begins: it is read as a row of tokens if and only if
the tokens are laid out in it — each at its own characters, in order and without overlap, with
nothing but blanks outside of them, and in touch only beside punctuation.  No text has two layouts.
And every text that is quoted, by either quote and with its quotes and backslashes escaped, is read
as one literal that restores it. -/
theorem lex_layout :
    (∀ (text : List Char) (start : Nat) (tokens : List (Spanned Token)),
      lex text start = .ok tokens ↔ Laid start text tokens) ∧
    (∀ (text : List Char) (start : Nat) (a b : List (Spanned Token)),
      Laid start text a → Laid start text b → a = b) ∧
    ∀ (v : QuotedValue) (start : Nat),
      lex v.written start
        = .ok [⟨.literal v.quote v.value, ⟨start, start + byteSize v.written⟩⟩] := by
  refine ⟨fun text start tokens => lexFrom_eq_ok_iff_laid, ?_, ?_⟩
  · intro text start a b ha hb
    have hread := lexFrom_eq_ok_iff_laid.mpr ha
    rw [lexFrom_eq_ok_iff_laid.mpr hb] at hread
    exact (Except.ok.inj hread).symm
  · intro v start
    apply lexFrom_eq_ok_iff_laid.mpr
    have hspelt := Token.lexeme_iff_spelt.mp v.lexeme_written
    have hnil : Laid (start + byteSize v.written) [] [] := Laid.nil
    have hlaid := hnil.cons hspelt (by simp)
    rwa [List.append_nil] at hlaid

/-- A text with a multi-byte literal, escapes of all kinds and tokens that touch punctuation. -/
def denseText : List Char :=
  " f.g '\\'é\\n\\\\' x=$".toList

/-- How it is read. -/
def denseTokens : List (Spanned Token) :=
  [⟨.word "f", ⟨1, 2⟩⟩, ⟨.dot, ⟨2, 3⟩⟩, ⟨.word "g", ⟨3, 4⟩⟩,
    ⟨.literal .single "'é\\n\\", ⟨5, 15⟩⟩, ⟨.word "x", ⟨16, 17⟩⟩, ⟨.equals, ⟨17, 18⟩⟩,
    ⟨.variable "", ⟨18, 19⟩⟩]

theorem lex_layout_dense :
    Laid 0 denseText denseTokens ∧ ∀ tokens, Laid 0 denseText tokens → tokens = denseTokens := by
  obtain ⟨reads, unique, -⟩ := lex_layout
  have hlex : lex denseText = .ok denseTokens := by
    cbv
  have hlaid := (reads denseText 0 denseTokens).mp hlex
  refine ⟨hlaid, ?_⟩
  intro tokens htokens
  exact unique denseText 0 tokens denseTokens htokens hlaid

end PromptEngine
