/-
  PromptEngine.Json.Reader — from a text to a JSON document.

  The text is first cut into lexemes; then a machine with a stack of open arrays and objects takes
  one lexeme after the other.  Both passes end because each step takes something from the front:
  a character (`lexeme_shorter`) or a lexeme.
-/
import PromptEngine.Json.Document

namespace PromptEngine.Json

/-! ## §1. Numbers. -/

/-- A digit between 0 and 9. -/
def isDigit (c : Char) : Bool :=
  c.isDigit

/-- Split a text behind the digits at its front; there has to be one. -/
def digits? (text : List Char) : Option (List Char × List Char) :=
  match text.takeWhile isDigit with
  | [] => none
  | digits => some (digits, text.dropWhile isDigit)

/-- The whole part of a number: a lone zero, or digits that do not begin with one. -/
def whole? : List Char → Option (List Char × List Char)
  | '0' :: rest =>
    match rest with
    | c :: _ => if isDigit c then none else some (['0'], rest)
    | [] => some (['0'], rest)
  | text => digits? text

/-- The fraction at the front of a text, if a point stands there. -/
def fraction? : List Char → Option (Option (List Char) × List Char)
  | '.' :: rest => (digits? rest).map fun (digits, rest) => (some digits, rest)
  | text => some (none, text)

/-- The exponent at the front of a text, if its mark stands there. -/
def exponent? : List Char → Option (Option (Bool × List Char) × List Char)
  | c :: rest =>
    if c == 'e' || c == 'E' then
      match rest with
      | '+' :: rest => (digits? rest).map fun (digits, rest) => (some (false, digits), rest)
      | '-' :: rest => (digits? rest).map fun (digits, rest) => (some (true, digits), rest)
      | rest => (digits? rest).map fun (digits, rest) => (some (false, digits), rest)
    else some (none, c :: rest)
  | [] => some (none, [])

/-- The number literal at the front of a text, after its sign. -/
def literal? (negative : Bool) (text : List Char) : Option (Number.Literal × List Char) := do
  let (whole, rest) ← whole? text
  let (fraction, rest) ← fraction? rest
  let (exponent, rest) ← exponent? rest
  return (⟨negative, whole, fraction, exponent⟩, rest)

/-! ## §2. Strings. -/

/-- A character of a string: as it is, or as a unit of sixteen bits. -/
inductive StringUnit where
  | char (c : Char)
  | code (n : Nat)

/-- The value of a hexadecimal digit. -/
def hexValue? (c : Char) : Option Nat :=
  if c.isDigit then some (c.toNat - '0'.toNat)
  else if 'a' ≤ c && c ≤ 'f' then some (c.toNat - 'a'.toNat + 10)
  else if 'A' ≤ c && c ≤ 'F' then some (c.toNat - 'A'.toNat + 10)
  else none

/-- The value of four hexadecimal digits. -/
def hexCode? (a b c d : Char) : Option Nat := do
  return ((← hexValue? a) * 16 + (← hexValue? b)) * 256
    + ((← hexValue? c) * 16 + (← hexValue? d))

/-- The character that a letter stands for behind a backslash. -/
def unescapeLetter? : Char → Option Char
  | '"' => some '"'
  | '\\' => some '\\'
  | '/' => some '/'
  | 'b' => some '\x08'
  | 'f' => some '\x0c'
  | 'n' => some '\n'
  | 'r' => some '\r'
  | 't' => some '\t'
  | _ => none

/-- Read the content of a string behind its opening quote, and what follows the closing one. -/
def stringUnits? : List Char → Option (List StringUnit × List Char)
  | [] => none
  | '\\' :: 'u' :: a :: b :: c :: d :: rest => do
    let n ← hexCode? a b c d
    let (units, after) ← stringUnits? rest
    return (.code n :: units, after)
  | '\\' :: letter :: rest => do
    let c ← unescapeLetter? letter
    let (units, after) ← stringUnits? rest
    return (.char c :: units, after)
  | c :: rest =>
    if c == '"' then some ([], rest)
    else if c == '\\' || c.toNat < 0x20 then none
    else do
      let (units, after) ← stringUnits? rest
      return (.char c :: units, after)

/-- The characters that units stand for, if surrogates come in pairs. -/
def joinUnits? : List StringUnit → Option (List Char)
  | [] => some []
  | .char c :: rest => (joinUnits? rest).map (c :: ·)
  | .code n :: rest =>
    if 0xD800 ≤ n && n < 0xDC00 then
      match rest with
      | .code low :: rest =>
        if 0xDC00 ≤ low && low < 0xE000 then
          (joinUnits? rest).map
            (Char.ofNat (0x10000 + (n - 0xD800) * 0x400 + (low - 0xDC00)) :: ·)
        else none
      | _ => none
    else if 0xDC00 ≤ n && n < 0xE000 then none
    else (joinUnits? rest).map (Char.ofNat n :: ·)

/-! ## §3. Lexemes. -/

/-- The smallest parts of a JSON text. -/
inductive Lexeme where
  | beginArray
  | endArray
  | beginObject
  | endObject
  | colon
  | comma
  | null
  | bool (value : Bool)
  | number (value : Option Number)
  | string (value : Option String)

/-- The characters that may stand between lexemes. -/
def isSpace (c : Char) : Bool :=
  c == ' ' || c == '\n' || c == '\t' || c == '\r'

/-- The lexeme at the front of a text that begins with `c`, and what follows it. -/
def lexeme? (c : Char) (rest : List Char) : Option (Lexeme × List Char) :=
  match c, rest with
  | '[', _ => some (.beginArray, rest)
  | ']', _ => some (.endArray, rest)
  | '\x7b', _ => some (.beginObject, rest)
  | '\x7d', _ => some (.endObject, rest)
  | ':', _ => some (.colon, rest)
  | ',', _ => some (.comma, rest)
  | 'n', 'u' :: 'l' :: 'l' :: rest => some (.null, rest)
  | 't', 'r' :: 'u' :: 'e' :: rest => some (.bool true, rest)
  | 'f', 'a' :: 'l' :: 's' :: 'e' :: rest => some (.bool false, rest)
  | '"', _ =>
    (stringUnits? rest).map fun (units, rest) =>
      (.string ((joinUnits? units).map String.ofList), rest)
  | '-', _ => (literal? true rest).map fun (l, rest) => (.number l.number?, rest)
  | _, _ => (literal? false (c :: rest)).map fun (l, rest) => (.number l.number?, rest)

theorem digits?_shorter {text digits rest : List Char} (h : digits? text = some (digits, rest)) :
    rest.length < text.length := by
  unfold digits? at h
  have split := congrArg List.length (List.takeWhile_append_dropWhile (p := isDigit) (l := text))
  rw [List.length_append] at split
  match hd : text.takeWhile isDigit with
  | [] => simp [hd] at h
  | d :: ds =>
    simp only [hd, Option.some.injEq, Prod.mk.injEq] at h
    rw [hd, List.length_cons] at split
    rw [← h.2]
    omega

theorem whole?_shorter {text digits rest : List Char} (h : whole? text = some (digits, rest)) :
    rest.length < text.length := by
  unfold whole? at h
  split at h
  · split at h
    · split at h
      · cases h
      · cases h; simp
    · cases h; simp
  · exact digits?_shorter h

theorem fraction?_shorter {text rest : List Char} {f : Option (List Char)}
    (h : fraction? text = some (f, rest)) : rest.length ≤ text.length := by
  unfold fraction? at h
  split at h
  · obtain ⟨⟨d, r⟩, hd, e⟩ := Option.map_eq_some_iff.1 h
    have := digits?_shorter hd
    cases e
    simp only [List.length_cons]
    omega
  · cases h; exact Nat.le_refl _

theorem exponent?_shorter {text rest : List Char} {x : Option (Bool × List Char)}
    (h : exponent? text = some (x, rest)) : rest.length ≤ text.length := by
  unfold exponent? at h
  split at h
  · split at h
    · split at h <;>
      · obtain ⟨⟨d, r⟩, hd, e⟩ := Option.map_eq_some_iff.1 h
        have := digits?_shorter hd
        cases e
        simp only [List.length_cons]
        omega
    · cases h; exact Nat.le_refl _
  · cases h; exact Nat.le_refl _

theorem literal?_shorter {negative : Bool} {text rest : List Char} {l : Number.Literal}
    (h : literal? negative text = some (l, rest)) : rest.length < text.length := by
  simp only [literal?, Option.bind_eq_bind, Option.bind_eq_some_iff, Prod.exists] at h
  obtain ⟨w, r₁, h₁, f, r₂, h₂, x, r₃, h₃, e⟩ := h
  have := whole?_shorter h₁
  have := fraction?_shorter h₂
  have := exponent?_shorter h₃
  cases e
  omega

theorem stringUnits?_shorter {text rest : List Char} {units : List StringUnit}
    (h : stringUnits? text = some (units, rest)) : rest.length < text.length := by
  fun_induction stringUnits? text generalizing units rest <;>
    simp_all only [Option.bind_eq_bind, Option.bind_eq_some_iff, Prod.exists, reduceCtorEq,
      List.length_cons, Option.some.injEq, Prod.mk.injEq, Option.pure_def]
  case case2 ih =>
    obtain ⟨_, _, _, _, h, _, e⟩ := h
    have := ih h
    subst e
    omega
  case case3 ih =>
    obtain ⟨_, _, _, _, h, _, e⟩ := h
    have := ih h
    subst e
    omega
  case case4 => omega
  case case6 ih =>
    obtain ⟨_, _, h, _, e⟩ := h
    have := ih h
    subst e
    omega

/-- A lexeme leaves less than there was. -/
theorem lexeme?_shorter {c : Char} {text rest : List Char} {l : Lexeme}
    (h : lexeme? c text = some (l, rest)) : rest.length < (c :: text).length := by
  unfold lexeme? at h
  split at h
  case h_10 =>
    obtain ⟨⟨u, r⟩, hu, e⟩ := Option.map_eq_some_iff.1 h
    have := stringUnits?_shorter hu
    cases e
    simp only [List.length_cons]
    omega
  case h_11 =>
    obtain ⟨⟨u, r⟩, hu, e⟩ := Option.map_eq_some_iff.1 h
    have := literal?_shorter hu
    cases e
    simp only [List.length_cons]
    omega
  case h_12 =>
    obtain ⟨⟨u, r⟩, hu, e⟩ := Option.map_eq_some_iff.1 h
    have := literal?_shorter hu
    cases e
    exact this
  all_goals
    cases h
    simp only [List.length_cons]
    omega

/-- Cut a text into lexemes. -/
def lexemes? : List Char → Option (List Lexeme)
  | [] => some []
  | c :: text =>
    if isSpace c then lexemes? text
    else
      match _h : lexeme? c text with
      | some (l, rest) => (lexemes? rest).map (l :: ·)
      | none => none
termination_by text => text.length
decreasing_by
  · simp
  · exact lexeme?_shorter _h

/-! ## §4. Documents. -/

/-- An array or an object that is still open, with its parts so far, last one first.  The name in
front of the part that is being read stands in the object's frame. -/
inductive Frame where
  | array (items : List Document)
  | object (members : List (Option String × Document))
  | member (members : List (Option String × Document)) (name : Option String)

/-- What the machine waits for. -/
inductive State where
  | value (stack : List Frame)
  /-- Behind an opening bracket: a value or the closing bracket. -/
  | itemOrEnd (stack : List Frame)
  /-- Behind an opening brace: a name or the closing brace. -/
  | nameOrEnd (stack : List Frame)
  | name (stack : List Frame)
  | colon (stack : List Frame)
  /-- Behind a part: a comma or the end of the array or object. -/
  | next (stack : List Frame)
  | done (document : Document)

/-- A document is complete: it becomes a part of the innermost open array or object. -/
def complete (document : Document) : List Frame → State
  | [] => .done document
  | .array items :: stack => .next (.array (document :: items) :: stack)
  | .member members name :: stack => .next (.object ((name, document) :: members) :: stack)
  | .object members :: stack => .next (.object members :: stack)

/-- A value begins. -/
def begin? (stack : List Frame) : Lexeme → Option State
  | .null => some (complete .null stack)
  | .bool b => some (complete (.bool b) stack)
  | .number n => some (complete (.number n) stack)
  | .string s => some (complete (.string s) stack)
  | .beginArray => some (.itemOrEnd (.array [] :: stack))
  | .beginObject => some (.nameOrEnd (.object [] :: stack))
  | _ => none

/-- One step of the machine. -/
def step? : State → Lexeme → Option State
  | .value stack, l => begin? stack l
  | .itemOrEnd (.array items :: stack), .endArray =>
    some (complete (.array items.reverse) stack)
  | .itemOrEnd stack, l => begin? stack l
  | .nameOrEnd (.object members :: stack), .endObject =>
    some (complete (.object members.reverse) stack)
  | .nameOrEnd (.object members :: stack), .string name =>
    some (.colon (.member members name :: stack))
  | .name (.object members :: stack), .string name =>
    some (.colon (.member members name :: stack))
  | .colon stack, .colon => some (.value stack)
  | .next (.array items :: stack), .comma => some (.value (.array items :: stack))
  | .next (.array items :: stack), .endArray => some (complete (.array items.reverse) stack)
  | .next (.object members :: stack), .comma => some (.name (.object members :: stack))
  | .next (.object members :: stack), .endObject =>
    some (complete (.object members.reverse) stack)
  | _, _ => none

/-- Run the machine over lexemes. -/
def run? : State → List Lexeme → Option State
  | state, [] => some state
  | state, l :: rest => (step? state l).bind (run? · rest)

/-- The document that a text says. -/
def Document.read? (text : List Char) : Option Document := do
  let lexemes ← lexemes? text
  match ← run? (.value []) lexemes with
  | .done document => some document
  | _ => none

/-- The value that a text says. -/
def read? (text : String) : Option Json :=
  (Document.read? text.toList).bind (Document.value? Document.nestingLimit)

end PromptEngine.Json
