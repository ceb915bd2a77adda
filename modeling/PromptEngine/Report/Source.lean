/-
  PromptEngine.Report.Source — the lines of a source, and where a character stands in them.

  Lines end at any of the line ends of Unicode; a carriage return and the line feed behind it are
  one end.  A line keeps its end, so the lines put together are the source (`flatten_splitLines`).
-/

namespace PromptEngine.Report

/-- A line of a source. -/
structure SourceLine where
  /-- The number of the line, from 1. -/
  number : Nat
  /-- How many characters stand before the line. -/
  offset : Nat
  /-- The characters of the line with its end. -/
  text : List Char
  deriving DecidableEq, Repr

namespace SourceLine

/-- How many characters stand before the end of the line. -/
def stop (line : SourceLine) : Nat :=
  line.offset + line.text.length

end SourceLine

/-- The characters that end a line. -/
def isLineEnd (c : Char) : Bool :=
  ['\n', '\r', '\x0b', '\x0c', '\u0085', '\u2028', '\u2029'].contains c

/-- Split a text behind its line ends. -/
def splitLines : List Char → List (List Char)
  | [] => []
  | '\r' :: '\n' :: rest => ['\r', '\n'] :: splitLines rest
  | c :: rest =>
    if isLineEnd c then [c] :: splitLines rest
    else
      match splitLines rest with
      | [] => [[c]]
      | line :: lines => (c :: line) :: lines

/-- The lines put together are the text. -/
theorem flatten_splitLines (text : List Char) : (splitLines text).flatten = text := by
  fun_induction splitLines text <;> simp_all

/-- Number lines, the first of which has the given number and offset. -/
def numberLines (number offset : Nat) : List (List Char) → List SourceLine
  | [] => []
  | text :: rest =>
    ⟨number, offset, text⟩ :: numberLines (number + 1) (offset + text.length) rest

/-- The lines of a source; an empty source has none. -/
def sourceLines (source : List Char) : List SourceLine :=
  numberLines 1 0 (splitLines source)

/-- The line of the character at an offset.  The end of the source belongs to its last line, if it
has one. -/
def lineAt? (source : List Char) (offset : Nat) : Option SourceLine :=
  if offset ≤ source.length then
    ((sourceLines source).filter (·.offset ≤ offset)).getLast?
  else none

/-- The line and the column, both from 1, of the character at an offset. -/
def place? (source : List Char) (offset : Nat) : Option (Nat × Nat) :=
  (lineAt? source offset).map fun line => (line.number, offset - line.offset + 1)

end PromptEngine.Report
