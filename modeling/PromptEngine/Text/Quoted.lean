/-
  PromptEngine.Text.Quoted — texts and characters in quotes, for people who debug.

  The quote itself, backslashes and the usual controls are escaped by a backslash; any other
  character that cannot be seen by itself is written by its code point.
-/
import PromptEngine.Text.PrintableTable
import PromptEngine.Text.WhiteSpace

namespace PromptEngine.Quoted

/-- The two halfwidth sound marks of Katakana. -/
def isHalfwidthSoundMark (c : Char) : Bool :=
  c == '\uff9e' || c == '\uff9f'

/-- Whether a character can be seen by itself.  Of the characters that extend a grapheme only the
halfwidth sound marks can: they stand beside their letter. -/
def isVisible (c : Char) : Bool :=
  isHalfwidthSoundMark c
    || !inRanges graphemeExtendRanges c.toNat && !inRanges hiddenRanges c.toNat

/-- The escape of a code point. -/
def codePoint (n : Nat) : List Char :=
  ['\\', 'u', '\x7b'] ++ Nat.toDigits 16 n ++ ['\x7d']

/-- A character between two quotes. -/
def escape (quote c : Char) : List Char :=
  if c == '\x00' then ['\\', '0']
  else if c == '\t' then ['\\', 't']
  else if c == '\r' then ['\\', 'r']
  else if c == '\n' then ['\\', 'n']
  else if c == quote || c == '\\' then ['\\', c]
  else if isVisible c then [c]
  else codePoint c.toNat

/-- A text in double quotes. -/
def text (s : String) : String :=
  String.ofList ('"' :: s.toList.flatMap (escape '"') ++ ['"'])

/-- A character in single quotes. -/
def char (c : Char) : String :=
  String.ofList ('\'' :: escape '\'' c ++ ['\''])

/-- A list of texts. -/
def list (items : List String) : String :=
  "[" ++ ", ".intercalate (items.map text) ++ "]"

end PromptEngine.Quoted
