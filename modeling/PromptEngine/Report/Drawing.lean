/-
  PromptEngine.Report.Drawing — a diagnostic drawn beside the source that it is about.

  After the message come the place of the diagnostic, the lines that its span lies in, with the
  span in red, and the message again at the end of an arrow that starts at the span:

      Error: message
         ╭─[name:2:5]
         │
       2 │ the line
         │     ──┬─
         │       ╰── message
      ───╯

  A span over several lines has its arrow in front of the lines; the lines between the first and
  the last one are left out.  The ends of the span are taken as numbers of characters.
-/
import PromptEngine.Report.Source
import PromptEngine.Template.SyntaxError
import PromptEngine.Text.Width

namespace PromptEngine.Report

/-! ## §1. Colours. -/

/-- The colours of a report. -/
inductive Ink where
  /-- The span and its arrow. -/
  | span
  /-- The frame, and the numbers of lines. -/
  | frame
  /-- The frame beside rows that are no lines of the source. -/
  | faint
  /-- The source outside the span. -/
  | source
  deriving DecidableEq, Repr

/-- The number of a colour on a terminal. -/
def Ink.code : Ink → String
  | .span => "31"
  | .frame => "38;5;246"
  | .faint => "38;5;240"
  | .source => "38;5;249"

/-- A text in a colour. -/
def paint (ink : Ink) (text : String) : String :=
  "\x1b[" ++ ink.code ++ "m" ++ text ++ "\x1b[0m"

/-- A text with each character in a colour of its own. -/
def paintEach (ink : Ink) (text : String) : String :=
  String.join (text.toList.map fun c => paint ink c.toString)

/-- A number of equal characters. -/
def repeated (n : Nat) (c : Char) : String :=
  String.ofList (List.replicate n c)

/-! ## §2. Columns. -/

/-- The distance of tab stops. -/
def tabWidth : Nat := 4

/-- How a character of a line is shown: the texts of its columns.  A tab reaches to the next stop,
and other white space is shown as a blank. -/
def cells (column : Nat) (c : Char) : List String :=
  if c == '\t' then List.replicate (tabWidth - column % tabWidth) " "
  else if isWhiteSpace c then [" "]
  else [c.toString]

/-- How many columns a character of a line takes. -/
def cellWidth (column : Nat) (c : Char) : Nat :=
  if c == '\t' then tabWidth - column % tabWidth
  else if isWhiteSpace c then 1
  else columns c

/-- The part of a label that stands below or beside one character of a line: the text of its first
column, and the text of its other columns. -/
structure Stroke where
  first : String
  more : String

/-- Nothing below a character. -/
def Stroke.blank : Stroke := ⟨" ", " "⟩

/-- A stroke in the colour of the span. -/
def Stroke.drawn (first more : Char) : Stroke :=
  ⟨paint .span first.toString, paint .span more.toString⟩

/-- A row of strokes below the first `n` characters of a line; behind its text, characters take one
column. -/
def strokeRow (text : List Char) (n : Nat) (stroke : Nat → Stroke) : String :=
  String.join <| (List.range n).map fun column =>
    let width := (text[column]?.map (cellWidth column)).getD 1
    match width with
    | 0 => ""
    | more + 1 => (stroke column).first ++ String.join (List.replicate more (stroke column).more)

/-! ## §3. Rows. -/

/-- What a report is drawn from: the span in characters, the text of its label, and the columns
that numbers of lines take. -/
structure Label where
  span : Span
  text : String
  numberWidth : Nat

namespace Label

/-- The last character of the span; an empty span has the one that follows it. -/
def last (label : Label) : Nat :=
  max (label.span.stop - 1) label.span.start

/-- Whether a character belongs to the span. -/
def covers (label : Label) (offset : Nat) : Bool :=
  label.span.start ≤ offset && offset < label.span.stop

/-- The frame beside a line of the source. -/
def lineFrame (label : Label) (line : SourceLine) : String :=
  let number := toString line.number
  " " ++ paint .frame (repeated (label.numberWidth - number.length) ' ' ++ number ++ " │") ++ " "

/-- The frame beside another row. -/
def rowFrame (label : Label) (bar : Char) : String :=
  " " ++ paint .faint (repeated (label.numberWidth + 1) ' ' ++ bar.toString) ++ " "

/-- The text of a line, without white space at its end. -/
def lineText (label : Label) (line : SourceLine) : String :=
  String.join <| (trimEnd line.text).mapIdx fun column c =>
    let ink := if label.covers (line.offset + column) then Ink.span else .source
    String.join ((cells column c).map (paint ink))

/-- The rows of a span within one line.  A span that reaches past the end of the source has no
arrow and no text. -/
def lineRows (label : Label) (line : SourceLine) : String :=
  if label.span.stop ≤ line.stop then
    let text := trimEnd line.text
    let middle := (label.span.start + label.span.stop) / 2 - line.offset
    let reach := label.span.stop - line.offset + 2
    let underline := fun column =>
      let covered := label.covers (line.offset + column)
      if column == middle then
        if covered then Stroke.drawn '┬' '─' else Stroke.drawn '│' ' '
      else if covered then Stroke.drawn '─' '─'
      else Stroke.blank
    let arrow := fun column =>
      if column == middle then Stroke.drawn '╰' '─'
      else if middle < column then Stroke.drawn '─' '─'
      else Stroke.blank
    label.lineFrame line ++ label.lineText line ++ "\n"
      ++ label.rowFrame '│' ++ strokeRow text reach underline ++ "\n"
      ++ label.rowFrame '│' ++ strokeRow text reach arrow ++ " " ++ label.text ++ "\n"
  else label.rowFrame '│' ++ "\n"

/-- The row of the first line of a span over several lines. -/
def firstRow (label : Label) (line : SourceLine) : String :=
  label.lineFrame line ++ paintEach .span "╭─▶ " ++ label.lineText line ++ "\n"

/-- The row that stands for the lines left out. -/
def gapRow (label : Label) : String :=
  label.rowFrame '┆' ++ paint .span "┆" ++ "   \n"

/-- The rows of the last line of a span over several lines. -/
def lastRows (label : Label) (line : SourceLine) : String :=
  let text := trimEnd line.text
  let reach := line.text.length + 2
  label.lineFrame line ++ paintEach .span "├─▶ " ++ label.lineText line ++ "\n"
    ++ label.rowFrame '│' ++ paint .span "│" ++ "   "
    ++ strokeRow text reach (fun _ => .blank) ++ "\n"
    ++ label.rowFrame '│' ++ paintEach .span "╰───"
    ++ strokeRow text reach (fun _ => .drawn '─' '─') ++ " " ++ label.text ++ "\n"

/-- The rows of a span, whose first and last character stand in the given lines. -/
def rows (label : Label) (first last : SourceLine) : String :=
  if first.number == last.number then label.lineRows first
  else
    let ended := label.last < last.stop
    let between := last.number - first.number - (if ended then 1 else 0)
    label.firstRow first ++ (if between == 0 then "" else label.gapRow)
      ++ (if ended then label.lastRows last else "")

end Label

/-! ## §4. Reports. -/

/-- The text at the end of the arrow: the message and what was expected instead. -/
def labelText (d : Diagnostic) : String :=
  if d.expected.isEmpty then d.message
  else d.message ++ "\nExpected: " ++ ", ".intercalate d.expected

/-- The first line of a report. -/
def heading (d : Diagnostic) : String :=
  paint .span "Error:" ++ " " ++ d.message ++ "\n"

/-- The row that names the place. -/
def placeRow (numberWidth : Nat) (name : String) (line column : Nat) : String :=
  repeated (numberWidth + 2) ' ' ++ paintEach .frame "╭─["
    ++ name ++ ":" ++ toString line ++ ":" ++ toString column ++ paint .frame "]" ++ "\n"

/-- The report of a diagnostic in a source of the given name.  Of a span that does not lie in the
source only the message is told. -/
def draw (d : Diagnostic) (name : String) (source : String) : String :=
  let characters := source.toList
  let label (width : Nat) : Label := ⟨d.span, labelText d, width⟩
  match lineAt? characters d.span.start, lineAt? characters (label 0).last with
  | some first, some last =>
    let width := (toString last.number).length
    heading d
      ++ placeRow width name first.number (d.span.start - first.offset + 1)
      ++ repeated (width + 2) ' ' ++ paint .frame "│" ++ "\n"
      ++ (label width).rows first last
      ++ paint .frame (repeated (width + 2) '─' ++ "╯") ++ "\n"
  | _, _ => heading d

end PromptEngine.Report
