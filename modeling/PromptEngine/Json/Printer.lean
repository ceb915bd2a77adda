/-
  PromptEngine.Json.Printer — JSON values as text.

  `compact` writes no blanks; `pretty` puts every item and every member on a line of its own,
  indented by two blanks for each level.  Members are written in the order in which they are
  listed.  In a string only quotes, backslashes and control characters are escaped.
-/
import PromptEngine.Json.Basic

namespace PromptEngine.Json

/-! ## §1. Strings. -/

/-- A hexadecimal digit in lower case. -/
def hexDigit (n : Nat) : Char :=
  if n < 10 then Char.ofNat ('0'.toNat + n) else Char.ofNat ('a'.toNat + (n - 10))

/-- The characters that stand for one character of a string. -/
def escapeChar (c : Char) : List Char :=
  if c == '"' then ['\\', '"']
  else if c == '\\' then ['\\', '\\']
  else if c == '\n' then ['\\', 'n']
  else if c == '\r' then ['\\', 'r']
  else if c == '\t' then ['\\', 't']
  else if c == '\x08' then ['\\', 'b']
  else if c == '\x0c' then ['\\', 'f']
  else if c.toNat < 0x20 then
    ['\\', 'u', '0', '0', hexDigit (c.toNat / 16), hexDigit (c.toNat % 16)]
  else [c]

/-- A string in quotes. -/
def quoted (text : String) : List Char :=
  '"' :: text.toList.flatMap escapeChar ++ ['"']

/-! ## §2. Values. -/

/-- The written form of a value that has no parts, with its parts left to the caller. -/
def leaf : Json → List Char
  | .null => "null".toList
  | .bool true => "true".toList
  | .bool false => "false".toList
  | .number n => n.toText.toList
  | .string s => quoted s
  | .array _ => ['[', ']']
  | .object _ => ['\x7b', '\x7d']

mutual

/-- A value without blanks. -/
def compactChars : Json → List Char
  | .array items => '[' :: compactItems items ++ [']']
  | .object members => '\x7b' :: compactMembers members ++ ['\x7d']
  | value => value.leaf

/-- Items separated by commas. -/
def compactItems : List Json → List Char
  | [] => []
  | [item] => compactChars item
  | item :: rest => compactChars item ++ ',' :: compactItems rest

/-- Members separated by commas. -/
def compactMembers : List (String × Json) → List Char
  | [] => []
  | [(name, value)] => quoted name ++ ':' :: compactChars value
  | (name, value) :: rest =>
    quoted name ++ ':' :: compactChars value ++ ',' :: compactMembers rest

end

/-- A value without blanks. -/
def compact (value : Json) : String :=
  String.ofList (compactChars value)

/-- A new line with the indentation of a level. -/
def newline (level : Nat) : List Char :=
  '\n' :: List.replicate (2 * level) ' '

mutual

/-- A value on several lines; `level` is the level that it stands on. -/
def prettyChars (level : Nat) : Json → List Char
  | .array (item :: rest) => '[' :: prettyItems (level + 1) (item :: rest) ++ newline level ++ [']']
  | .object (member :: rest) =>
    '\x7b' :: prettyMembers (level + 1) (member :: rest) ++ newline level ++ ['\x7d']
  | value => value.leaf

/-- Items, each on a line of its own. -/
def prettyItems (level : Nat) : List Json → List Char
  | [] => []
  | [item] => newline level ++ prettyChars level item
  | item :: rest => newline level ++ prettyChars level item ++ ',' :: prettyItems level rest

/-- Members, each on a line of its own. -/
def prettyMembers (level : Nat) : List (String × Json) → List Char
  | [] => []
  | [(name, value)] => newline level ++ quoted name ++ [':', ' '] ++ prettyChars level value
  | (name, value) :: rest =>
    newline level ++ quoted name ++ [':', ' '] ++ prettyChars level value
      ++ ',' :: prettyMembers level rest

end

/-- A value on several lines. -/
def pretty (value : Json) : String :=
  String.ofList (prettyChars 0 value)

end PromptEngine.Json
