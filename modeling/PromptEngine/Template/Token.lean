/-
  PromptEngine.Template.Token — the tokens of a code block.

  A code block is written with two punctuation marks, words, variables and quoted literals.  The
  module gives the token type, the two quotes, and the reading of a literal's escapes.
-/
import PromptEngine.Text.Span
import PromptEngine.Text.Identifier


namespace PromptEngine

/-- The two ways to quote a literal. -/
inductive Quote where
  | single
  | double
  deriving DecidableEq, Repr

namespace Quote

/-- The character that opens and closes the literal. -/
def char : Quote → Char
  | .single => '\''
  | .double => '"'

end Quote

/-- One token of a code block. -/
inductive Token where
  | dot
  | equals
  /-- A dollar sign with the name after it; the name may be empty here. -/
  | variable (name : String)
  | word (text : String)
  /-- A literal with its escapes already read. -/
  | literal (quote : Quote) (text : String)
  deriving DecidableEq, Repr

namespace Token

/-- The name of a token in an error message. -/
def describe : Token → String
  | .dot => "'.'"
  | .equals => "'='"
  | .variable name => s!"variable '${name}'"
  | .word text => s!"identifier '{text}'"
  | .literal .single text => s!"value '{text}'"
  | .literal .double text => s!"value \"{text}\""

/-- The two punctuation marks may stand directly beside any other token. -/
def isPunctuation : Token → Bool
  | .dot | .equals => true
  | _ => false

end Token

namespace Literal

/-- The characters that a backslash protects inside a literal. -/
def isEscapable (c : Char) : Bool :=
  c == '\'' || c == '"' || c == '\\'

/-- Read the escapes of a literal: a backslash before a quote or a backslash stands for that
character alone, any other backslash for itself. -/
def unescape : List Char → List Char
  | [] => []
  | '\\' :: c :: rest =>
    if isEscapable c then c :: unescape rest else '\\' :: unescape (c :: rest)
  | c :: rest => c :: unescape rest

/-- Split what follows an opening quote at the closing one: the content as written and the rest.
A backslash keeps the character after it from closing the literal. -/
def split (quote : Char) : List Char → Option (List Char × List Char)
  | [] => none
  | '\\' :: c :: rest => (split quote rest).map fun (body, after) => ('\\' :: c :: body, after)
  | c :: rest =>
    if c == quote then some ([], rest)
    else if c == '\\' then none
    else (split quote rest).map fun (body, after) => (c :: body, after)

/-- How many bytes an unclosed literal reaches after its quote: all of them, but not a last
backslash that protects nothing. -/
def openReach : List Char → Nat
  | [] => 0
  | '\\' :: c :: rest => 1 + c.utf8Size + openReach rest
  | c :: rest => (if c == '\\' then 0 else c.utf8Size) + openReach rest

end Literal

end PromptEngine
