/-
  PromptEngine.Toml.Quoted — the four kinds of strings.

      "basic"    with escapes      'literal'    as it stands
      """basic, over lines"""      '''literal, over lines'''

  A string over lines loses a line end directly behind its opening quotes; one or two quotes may
  stand anywhere in it, also directly before the closing ones.  Controls other than the tab are
  refused.
-/
import PromptEngine.Toml.Scalar

namespace PromptEngine.Toml

/-- The characters that may stand in comments and strings: tabs and all that is not a control. -/
def isPlain (c : Char) : Bool :=
  c == '\t' || (0x20 ≤ c.toNat && c.toNat != 0x7F)

/-- A space or a tab. -/
def isBlank (c : Char) : Bool :=
  c == ' ' || c == '\t'

/-- Pass over a line end. -/
def lineEnd? : List Char → Option (List Char)
  | '\n' :: rest => some rest
  | '\r' :: '\n' :: rest => some rest
  | _ => none

/-! ## §1. Escapes. -/

/-- The character that a letter stands for behind a backslash. -/
def unescapeLetter? : Char → Option Char
  | 'b' => some '\x08'
  | 't' => some '\t'
  | 'n' => some '\n'
  | 'f' => some '\x0c'
  | 'r' => some '\r'
  | '"' => some '"'
  | '\\' => some '\\'
  | _ => none

/-- The character whose code point is written with `count` hexadecimal digits at the front of a
text.  Surrogates are no characters. -/
def codePoint? (count : Nat) (text : List Char) : Option Char := do
  let digits := text.take count
  let values ← digits.mapM (digitValue? 16)
  let n := ofDigits 16 values
  if digits.length == count && n.isValidChar then some (Char.ofNat n) else none

/-- The character that an escape stands for, and how many characters the escape has behind its
backslash. -/
def escape? : List Char → Option (Char × Nat)
  | 'u' :: rest => (codePoint? 4 rest).map (·, 5)
  | 'U' :: rest => (codePoint? 8 rest).map (·, 9)
  | c :: _ => (unescapeLetter? c).map (·, 1)
  | [] => none

/-! ## §2. Strings on one line. -/

/-- Read a string on one line behind its opening quote, and what follows the closing one.  `skip`
counts the characters of an escape that still have to be passed over. -/
def line? (quote : Char) : (skip : Nat) → List Char → Option (List Char × List Char)
  | _, [] => none
  | skip + 1, _ :: rest => line? quote skip rest
  | 0, c :: rest =>
    if c == quote then some ([], rest)
    else if c == '\\' && quote == '"' then do
      let (d, skip) ← escape? rest
      let (content, rest) ← line? quote skip rest
      return (d :: content, rest)
    else if isPlain c then do
      let (content, rest) ← line? quote 0 rest
      return (c :: content, rest)
    else none

/-! ## §3. Strings over lines. -/

/-- How many characters a backslash at the end of a line takes away behind itself: blanks, the
line end, and all blanks and line ends that follow. -/
def foldedLine? (text : List Char) : Option Nat := do
  let rest ← lineEnd? (text.dropWhile isBlank)
  return text.length - (blankLines rest).length
where
  /-- What follows blanks and line ends. -/
  blankLines : List Char → List Char
    | '\r' :: '\n' :: rest => blankLines rest
    | c :: rest => if isBlank c || c == '\n' then blankLines rest else c :: rest
    | [] => []

/-- Read a string over lines behind its opening quotes, and what follows the closing ones. -/
def lines? (quote : Char) : (skip : Nat) → List Char → Option (List Char × List Char)
  | _, [] => none
  | skip + 1, _ :: rest => lines? quote skip rest
  | 0, c :: rest =>
    if c == quote then
      match rest with
      | d :: e :: after =>
        if d == quote && e == quote then
          let extra := (after.take 2).takeWhile (· == quote)
          some (extra, after.drop extra.length)
        else do
          let (content, rest) ← lines? quote 0 rest
          return (c :: content, rest)
      | _ => none
    else if c == '\\' && quote == '"' then
      match foldedLine? rest with
      | some skip => lines? quote skip rest
      | none => do
        let (d, skip) ← escape? rest
        let (content, rest) ← lines? quote skip rest
        return (d :: content, rest)
    else if c == '\r' then
      if rest.head? == some '\n' then lines? quote 0 rest else none
    else if c == '\n' || isPlain c then do
      let (content, rest) ← lines? quote 0 rest
      return (c :: content, rest)
    else none

/-! ## §4. Strings. -/

/-- Read a string behind its first quote, and what follows it. -/
def quoted? (quote : Char) (text : List Char) : Option (List Char × List Char) :=
  match text with
  | c :: d :: rest =>
    if c == quote && d == quote then lines? quote 0 ((lineEnd? rest).getD rest)
    else line? quote 0 text
  | _ => line? quote 0 text

end PromptEngine.Toml
