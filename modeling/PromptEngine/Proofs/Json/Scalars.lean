/-
  PromptEngine.Proofs.Json.Scalars — strings and integers come back from their written forms.

  A string is written character by character, and every written character is read as one unit that
  joins to that character again (`stringUnits?_escapeChar`); the induction over the text carries
  what follows the closing quote (`stringUnits?_escaped`).  An integer of 64 bits is written with a
  sign and decimal digits that do not begin with a zero, so they are read as one literal without
  fraction and exponent, provided that the text does not go on with a part of a number
  (`Closes`, `literal?_toDigits`).

  Main results: `lexeme?_quoted` and `lexeme?_integer`.
-/
import PromptEngine.Json.Printer
import PromptEngine.Proofs.Json.Objects

namespace PromptEngine.Json

/-! ## §1. Strings. -/

theorem hexValue?_hexDigit : ∀ n < 16, hexValue? (hexDigit n) = some n := by
  decide

/-- A control character is written with four hexadecimal digits, and these are its code. -/
theorem hexCode?_control {n : Nat} (h : n < 0x20) :
    hexCode? '0' '0' (hexDigit (n / 16)) (hexDigit (n % 16)) = some n := by
  have hhigh := hexValue?_hexDigit (n / 16) (by omega)
  have hlow := hexValue?_hexDigit (n % 16) (by omega)
  have hzero : hexValue? '0' = some 0 := rfl
  unfold hexCode?
  rw [hhigh, hlow, hzero]
  show some ((0 * 16 + 0) * 256 + (n / 16 * 16 + n % 16)) = some n
  congr 1
  omega

/-- Below the surrogates a unit joins to the character of its code. -/
theorem joinUnits?_code {c : Char} (h : c.toNat < 0xD800) (units : List StringUnit) :
    joinUnits? (.code c.toNat :: units) = (joinUnits? units).map (c :: ·) := by
  have hlead : ¬ (0xD800 ≤ c.toNat && c.toNat < 0xDC00) = true := by
    rw [Bool.and_eq_true, decide_eq_true_eq]
    omega
  have htrail : ¬ (0xDC00 ≤ c.toNat && c.toNat < 0xE000) = true := by
    rw [Bool.and_eq_true, decide_eq_true_eq]
    omega
  rw [joinUnits?.eq_def]
  dsimp only
  rw [if_neg hlead, if_neg htrail, Char.ofNat_toNat]

/-- A character is written with a letter of its own, with its code, or as it is. -/
theorem escapeChar_cases (c : Char) :
    (∃ letter, letter ≠ 'u' ∧ unescapeLetter? letter = some c ∧ escapeChar c = ['\\', letter]) ∨
      (c.toNat < 0x20 ∧
        escapeChar c = ['\\', 'u', '0', '0', hexDigit (c.toNat / 16), hexDigit (c.toNat % 16)]) ∨
      (c ≠ '"' ∧ c ≠ '\\' ∧ 0x20 ≤ c.toNat ∧ escapeChar c = [c]) := by
  have hletter : ∀ letter, letter ≠ 'u' → unescapeLetter? letter = some c →
      ∃ l, l ≠ 'u' ∧ unescapeLetter? l = some c ∧ ['\\', letter] = ['\\', l] :=
    fun letter hu hread => ⟨letter, hu, hread, rfl⟩
  unfold escapeChar
  simp only [beq_iff_eq]
  split
  · subst c
    exact Or.inl (hletter '"' (by decide) rfl)
  split
  · subst c
    exact Or.inl (hletter '\\' (by decide) rfl)
  split
  · subst c
    exact Or.inl (hletter 'n' (by decide) rfl)
  split
  · subst c
    exact Or.inl (hletter 'r' (by decide) rfl)
  split
  · subst c
    exact Or.inl (hletter 't' (by decide) rfl)
  split
  · subst c
    exact Or.inl (hletter 'b' (by decide) rfl)
  split
  · subst c
    exact Or.inl (hletter 'f' (by decide) rfl)
  split
  · next hcontrol => exact Or.inr (Or.inl ⟨hcontrol, rfl⟩)
  · next hquote hslash _ _ _ _ _ hcontrol =>
      exact Or.inr (Or.inr ⟨hquote, hslash, Nat.le_of_not_lt hcontrol, rfl⟩)

/-- **One character.**  Its written form is read as one unit that joins to it. -/
theorem stringUnits?_escapeChar (c : Char) :
    ∃ unit, (∀ text, stringUnits? (escapeChar c ++ text)
        = (stringUnits? text).map fun read => (unit :: read.1, read.2)) ∧
      ∀ units, joinUnits? (unit :: units) = (joinUnits? units).map (c :: ·) := by
  have hjoin : ∀ units, joinUnits? (.char c :: units) = (joinUnits? units).map (c :: ·) := by
    intro units
    rw [joinUnits?]
  obtain ⟨letter, hu, hread, hwritten⟩ | ⟨hcontrol, hwritten⟩ |
    ⟨hquote, hslash, hprintable, hwritten⟩ := escapeChar_cases c
  · refine ⟨.char c, fun text => ?_, hjoin⟩
    rw [hwritten, List.cons_append, List.cons_append, List.nil_append, stringUnits?, hread]
    · cases stringUnits? text <;> rfl
    · intro _ _ _ _ _ heq
      exact absurd heq hu
  · -- Control characters lie far below the surrogates, so their unit stands alone.
    refine ⟨.code c.toNat, fun text => ?_, joinUnits?_code (by omega)⟩
    rw [hwritten]
    show stringUnits? ('\\' :: 'u' :: '0' :: '0' :: hexDigit _ :: hexDigit _ :: text) = _
    rw [stringUnits?, hexCode?_control hcontrol]
    cases stringUnits? text <;> rfl
  · refine ⟨.char c, fun text => ?_, hjoin⟩
    have hend : (c == '"') = false := beq_false_of_ne hquote
    have hplain : (c == '\\' || c.toNat < 0x20) = false := by
      rw [beq_false_of_ne hslash, Bool.false_or, decide_eq_false_iff_not]
      omega
    rw [hwritten, List.cons_append, List.nil_append, stringUnits?, hend, hplain]
    · cases stringUnits? text <;> rfl
    · intro _ _ _ _ _ heq
      exact absurd heq hslash
    · intro _ _ heq
      exact absurd heq hslash

/-- **A whole text.**  It is read up to its closing quote, and its units join to it. -/
theorem stringUnits?_escaped (content rest : List Char) :
    ∃ units, stringUnits? (content.flatMap escapeChar ++ '"' :: rest) = some (units, rest) ∧
      joinUnits? units = some content := by
  induction content with
  | nil =>
      refine ⟨[], ?_, rfl⟩
      rw [List.flatMap_nil, List.nil_append, stringUnits?]
      · rfl
      · intro _ _ _ _ _ heq
        exact absurd heq (by decide)
      · intro _ _ heq
        exact absurd heq (by decide)
  | cons c content ih =>
      obtain ⟨units, hread, hjoin⟩ := ih
      obtain ⟨unit, hfirst, hunit⟩ := stringUnits?_escapeChar c
      refine ⟨unit :: units, ?_, ?_⟩
      · rw [List.flatMap_cons, List.append_assoc, hfirst, hread]
        rfl
      · rw [hunit, hjoin]
        rfl

/-- **A string comes back from its written form.** -/
theorem lexeme?_quoted (text : String) (rest : List Char) :
    ∃ written, quoted text ++ rest = '"' :: written ∧
      lexeme? '"' written = some (.string (some text), rest) := by
  obtain ⟨units, hread, hjoin⟩ := stringUnits?_escaped text.toList rest
  refine ⟨text.toList.flatMap escapeChar ++ '"' :: rest, ?_, ?_⟩
  · unfold quoted
    rw [List.append_assoc]
    rfl
  · show (stringUnits? _).map _ = _
    rw [hread, Option.map_some]
    dsimp only
    rw [hjoin, Option.map_some, String.ofList_toList]

/-! ## §2. Integers. -/

/-- What may follow a value in a text: the end, or something that closes the value. -/
def Closes (rest : List Char) : Prop :=
  ∀ c ∈ rest.head?, c = ',' ∨ c = ']' ∨ c = '\x7d'

/-- The integers that have a literal of their own. -/
def Number.Fits : Number → Prop
  | .integer n => -(Nat.pow 2 63 : Int) ≤ n ∧ n < (Nat.pow 2 64 : Int)
  | .real _ => False

instance : DecidablePred Number.Fits
  | .integer n =>
    inferInstanceAs (Decidable (-(Nat.pow 2 63 : Int) ≤ n ∧ n < (Nat.pow 2 64 : Int)))
  | .real _ => inferInstanceAs (Decidable False)

/-- Only zero is written with a leading zero. -/
theorem eq_zero_of_head?_toDigits (n : Nat) (h : (Nat.toDigits 10 n).head? = some '0') : n = 0 := by
  induction n using Nat.strongRecOn with
  | ind n ih =>
      rw [Nat.toDigits_eq_if (by decide)] at h
      split at h
      · exact Nat.digitChar_eq_zero.mp (Option.some.inj h)
      · next hlarge =>
          -- The first digit of a longer number is the first digit of its tenth.
          rw [List.head?_append_of_ne_nil _ Nat.toDigits_ne_nil] at h
          have hfront := ih (n / 10) (by omega) h
          omega

/-- Digits are read up to what closes the value. -/
theorem digits?_append {digits rest : List Char} (hsome : digits ≠ [])
    (hdigits : ∀ c ∈ digits, isDigit c = true) (hrest : Closes rest) :
    digits? (digits ++ rest) = some (digits, rest) := by
  have hstop : rest.takeWhile isDigit = [] ∧ rest.dropWhile isDigit = rest := by
    cases rest with
    | nil => exact ⟨rfl, rfl⟩
    | cons c rest =>
        obtain rfl | rfl | rfl := hrest c rfl <;> exact ⟨rfl, rfl⟩
  unfold digits?
  rw [List.takeWhile_append_of_pos hdigits, List.dropWhile_append_of_pos hdigits, hstop.1, hstop.2,
    List.append_nil]
  cases digits with
  | nil => contradiction
  | cons c digits => rfl

theorem isDigit_of_mem_toDigits {n : Nat} : ∀ c ∈ Nat.toDigits 10 n, isDigit c = true :=
  fun _ hc => Nat.isDigit_of_mem_toDigits (by decide) (by decide) hc

theorem exists_toDigits_eq_cons (n : Nat) :
    ∃ c digits, Nat.toDigits 10 n = c :: digits ∧ isDigit c = true := by
  have hsome : Nat.toDigits 10 n ≠ [] := Nat.toDigits_ne_nil
  obtain ⟨c, digits, hdigits⟩ := List.exists_cons_of_ne_nil hsome
  refine ⟨c, digits, hdigits, isDigit_of_mem_toDigits c (n := n) ?_⟩
  rw [hdigits]
  exact List.mem_cons_self

theorem whole?_toDigits (n : Nat) {rest : List Char} (hrest : Closes rest) :
    whole? (Nat.toDigits 10 n ++ rest) = some (Nat.toDigits 10 n, rest) := by
  by_cases hn : n = 0
  · subst hn
    show whole? ('0' :: rest) = some (['0'], rest)
    cases rest with
    | nil => rfl
    | cons c rest =>
        obtain rfl | rfl | rfl := hrest c rfl <;> rfl
  · -- The first digit is none that the reader would take for a lone zero.
    have hhead := mt (eq_zero_of_head?_toDigits n) hn
    have hread := digits?_append Nat.toDigits_ne_nil (isDigit_of_mem_toDigits (n := n)) hrest
    obtain ⟨c, digits, hdigits, -⟩ := exists_toDigits_eq_cons n
    rw [hdigits] at hhead hread ⊢
    rw [List.cons_append, whole?]
    · exact hread
    · intro _ heq
      exact hhead (congrArg some (List.cons.inj heq).1)

/-- The digits of a number are a literal without fraction and exponent. -/
theorem literal?_toDigits (negative : Bool) (n : Nat) {rest : List Char} (hrest : Closes rest) :
    literal? negative (Nat.toDigits 10 n ++ rest)
      = some (⟨negative, Nat.toDigits 10 n, none, none⟩, rest) := by
  have hbehind : fraction? rest = some (none, rest) ∧ exponent? rest = some (none, rest) := by
    cases rest with
    | nil => exact ⟨rfl, rfl⟩
    | cons c rest =>
        obtain rfl | rfl | rfl := hrest c rfl <;> exact ⟨rfl, rfl⟩
  unfold literal?
  rw [whole?_toDigits n hrest]
  show (fraction? rest).bind _ = _
  rw [hbehind.1]
  show (exponent? rest).bind _ = _
  rw [hbehind.2]
  rfl

theorem decimalValue_toDigits (n : Nat) : Number.decimalValue (Nat.toDigits 10 n) = n :=
  Nat.ofDigitChars_toDigits (by decide) (by decide)

theorem number?_of_nonneg {n : Nat} (h : n < Nat.pow 2 64) :
    Number.Literal.number? ⟨false, Nat.toDigits 10 n, none, none⟩ = some (.integer n) := by
  have hinteger :
      Number.Literal.integer? ⟨false, Nat.toDigits 10 n, none, none⟩ = some (n : Int) := by
    unfold Number.Literal.integer?
    dsimp only
    rw [decimalValue_toDigits, if_neg Bool.false_ne_true]
    exact if_pos h
  unfold Number.Literal.number?
  rw [hinteger]

theorem number?_of_neg {n : Nat} (hpos : 0 < n) (h : n ≤ Nat.pow 2 63) :
    Number.Literal.number? ⟨true, Nat.toDigits 10 n, none, none⟩ = some (.integer (-n)) := by
  have hinteger :
      Number.Literal.integer? ⟨true, Nat.toDigits 10 n, none, none⟩ = some (-n : Int) := by
    unfold Number.Literal.integer?
    dsimp only
    rw [decimalValue_toDigits, if_pos rfl]
    apply if_pos
    rw [Bool.and_eq_true, decide_eq_true_eq, decide_eq_true_eq]
    exact ⟨hpos, h⟩
  unfold Number.Literal.number?
  rw [hinteger]

/-- What begins with a digit is read as a number. -/
theorem lexeme?_digit {c : Char} (h : isDigit c = true) (text : List Char) :
    lexeme? c text
      = (literal? false (c :: text)).map fun read => (.number read.1.number?, read.2) := by
  unfold lexeme?
  split
  case h_12 => rfl
  all_goals contradiction

/-- **An integer of 64 bits comes back from its written form.** -/
theorem lexeme?_integer {n : Int} (h : (Number.integer n).Fits) {rest : List Char}
    (hrest : Closes rest) :
    ∃ c text, (Number.integer n).toText.toList ++ rest = c :: text ∧
      lexeme? c text = some (.number (some (.integer n)), rest) := by
  obtain ⟨hlow, hhigh⟩ := h
  cases n with
  | ofNat n =>
      have hfits : n < Nat.pow 2 64 := Int.ofNat_lt.mp hhigh
      have hread := literal?_toDigits false n hrest
      obtain ⟨c, digits, hdigits, hc⟩ := exists_toDigits_eq_cons n
      refine ⟨c, digits ++ rest, ?_, ?_⟩
      · show n.repr.toList ++ rest = _
        rw [Nat.toList_repr, hdigits, List.cons_append]
      · rw [lexeme?_digit hc, ← List.cons_append, ← hdigits, hread, Option.map_some,
          number?_of_nonneg hfits]
        rfl
  | negSucc n =>
      have hfits : n + 1 ≤ Nat.pow 2 63 := Int.ofNat_le.mp (Int.neg_le_neg_iff.mp hlow)
      refine ⟨'-', Nat.toDigits 10 (n + 1) ++ rest, ?_, ?_⟩
      · show ("-" ++ (n + 1).repr).toList ++ rest = _
        rw [String.toList_append, Nat.toList_repr]
        rfl
      · show (literal? true _).map _ = _
        rw [literal?_toDigits true (n + 1) hrest, Option.map_some]
        dsimp only
        rw [number?_of_neg (Nat.succ_pos n) hfits]
        rfl

end PromptEngine.Json
