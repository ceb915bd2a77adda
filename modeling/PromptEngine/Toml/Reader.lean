/-
  PromptEngine.Toml.Reader — from a text to the members of a TOML document.

  The text is read as a list of statements, one on a line, which are then added up to a table
  (`Members.ofStatements?`).  Arrays and tables in braces are read by a loop over their elements;
  the loop ends because it goes on only where an element left less than there was.
-/
import PromptEngine.Toml.Quoted

namespace PromptEngine.Toml

/-! ## §1. Blanks and comments. -/

/-- Pass over spaces and tabs. -/
def skipBlanks (text : List Char) : List Char :=
  text.dropWhile isBlank

/-- Pass over a comment, if one stands at the front of a text. -/
def skipComment : List Char → List Char
  | '#' :: rest => rest.dropWhile isPlain
  | text => text

/-- Pass over the end of a statement: blanks, a comment, and the end of the line or of the text. -/
def statementEnd? (text : List Char) : Option (List Char) :=
  match skipComment (skipBlanks text) with
  | [] => some []
  | rest => lineEnd? rest

theorem skipComment_length_le (text : List Char) :
    (skipComment text).length ≤ text.length := by
  unfold skipComment
  split
  · exact Nat.le_succ_of_le (List.dropWhile_sublist isPlain).length_le
  · exact Nat.le_refl _

theorem lineEnd?_shorter {text rest : List Char} (h : lineEnd? text = some rest) :
    rest.length < text.length := by
  unfold lineEnd? at h
  split at h
  · cases h
    simp
  · cases h
    simp only [List.length_cons]
    omega
  · cases h

/-- Pass over blanks, line ends and the comments in front of them. -/
def skipLines : List Char → List Char
  | [] => []
  | c :: rest =>
    if isBlank c then skipLines rest
    else
      match _h : lineEnd? (skipComment (c :: rest)) with
      | some after => skipLines after
      | none => c :: rest
termination_by text => text.length
decreasing_by
  · simp
  · exact Nat.lt_of_lt_of_le (lineEnd?_shorter _h) (skipComment_length_le _)

/-! ## §2. Keys. -/

/-- The characters of names without quotes. -/
def isBareChar (c : Char) : Bool :=
  c.isAlphanum || c == '-' || c == '_'

/-- The name at the front of a text, and what follows it. -/
def name? : List Char → Option (String × List Char)
  | '"' :: rest => (line? '"' 0 rest).map fun (name, rest) => (String.ofList name, rest)
  | '\'' :: rest => (line? '\'' 0 rest).map fun (name, rest) => (String.ofList name, rest)
  | text =>
    match text.takeWhile isBareChar with
    | [] => none
    | name => some (String.ofList name, text.dropWhile isBareChar)

/-- How many names a key may have, less one. -/
def keyLimit : Nat := 78

/-- A key: names with points between them, with blanks around each.  `more` counts the names that
may still follow. -/
def key? (more : Nat) (text : List Char) : Option (Key × List Char) := do
  let (name, rest) ← name? (skipBlanks text)
  match more, skipBlanks rest with
  | 0, '.' :: _ => none
  | more + 1, '.' :: rest => do
    let (key, rest) ← key? more rest
    return (⟨name :: key.through, key.name⟩, rest)
  | _, rest => some (⟨[], name⟩, rest)

/-! ## §3. Values. -/

/-- A reader of a part at the front of a text; it gives the part and what follows it. -/
abbrev Reader (α : Type) := List Char → Option (α × List Char)

/-- The elements of an array or of a table in braces, the first of which is due, up to the closing
character.  `skip` passes over what may stand around elements; `trailing` tells whether a comma may
stand behind the last one. -/
def elements? {α : Type} (skip : List Char → List Char) (element : Reader α) (close : Char)
    (trailing : Bool) (text : List Char) : Option (List α × List Char) :=
  match element text with
  | none => none
  | some (first, rest) =>
    match skip rest with
    | ',' :: rest =>
      let next := skip rest
      if trailing && next.head? == some close then some ([first], next.tail)
      else if next.length < text.length then
        (elements? skip element close trailing next).map fun (others, rest) =>
          (first :: others, rest)
      else none
    | c :: rest => if c == close then some ([first], rest) else none
    | [] => none
termination_by text.length

/-- What stands between an opening and a closing character. -/
def between? {α : Type} (skip : List Char → List Char) (element : Reader α) (close : Char)
    (trailing : Bool) (text : List Char) : Option (List α × List Char) :=
  let text := skip text
  if text.head? == some close then some ([], text.tail)
  else elements? skip element close trailing text

/-- A pair, with the reader of its value. -/
def pair? (value : Reader Value) (text : List Char) : Option ((Key × Value) × List Char) := do
  let (key, rest) ← key? keyLimit text
  let (value, rest) ← value (skipBlanks (← mark? '=' rest))
  return ((key, value), rest)

/-- The value at the front of a text, with at most `depth` arrays and tables around each other. -/
def value? (depth : Nat) : Reader Value
  | '"' :: rest => (quoted? '"' rest).map fun (content, rest) => (.string (String.ofList content), rest)
  | '\'' :: rest =>
    (quoted? '\'' rest).map fun (content, rest) => (.string (String.ofList content), rest)
  | '[' :: rest =>
    match depth with
    | 0 => none
    | depth + 1 =>
      (between? skipLines (value? depth) ']' true rest).map fun (items, rest) =>
        (.array items, rest)
  | '\x7b' :: rest =>
    match depth with
    | 0 => none
    | depth + 1 => do
      let (pairs, rest) ← between? skipBlanks (pair? (value? depth)) '\x7d' false rest
      return (.table .closed (← Members.ofPairs? pairs), rest)
  | text =>
    let (scalar, rest) := takeScalar text
    (scalar? scalar).map (·, rest)

/-- How many arrays and tables may stand around each other. -/
def nestingLimit : Nat := 79

/-! ## §4. Documents. -/

/-- The statement at the front of a text, and what follows it on its line. -/
def statement? : Reader Statement
  | '[' :: '[' :: rest => do
    let (key, rest) ← key? keyLimit rest
    return (.repeated key, ← mark? ']' (← mark? ']' rest))
  | '[' :: rest => do
    let (key, rest) ← key? keyLimit rest
    return (.header key, ← mark? ']' rest)
  | text => do
    let ((key, value), rest) ← pair? (value? nestingLimit) text
    return (.pair key value, rest)

/-- The statements of a text, which stand on lines of their own. -/
def statements? (text : List Char) : Option (List Statement) :=
  match statementEnd? text with
  | some [] => some []
  | some rest => if rest.length < text.length then statements? rest else none
  | none => do
    let (statement, rest) ← statement? (skipBlanks text)
    let rest ← statementEnd? rest
    if rest.length < text.length then do
      return statement :: (← statements? rest)
    else none
termination_by text.length

/-- The members of the document that a text says.  A byte order mark may stand before it. -/
def read? (text : String) : Option Members :=
  let characters := match text.toList with
    | '\uFEFF' :: rest => rest
    | characters => characters
  (statements? characters).bind Members.ofStatements?

end PromptEngine.Toml
