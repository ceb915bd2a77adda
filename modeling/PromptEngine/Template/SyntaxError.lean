/-
  PromptEngine.Template.SyntaxError — what can be wrong with a code block, and how it is worded.

  A fault is the cause; an error adds the place in the template and the block it was found in.
  `Diagnostic` is the worded form: a span, one line of text and the list of expectations.
-/
import PromptEngine.Template.Token

namespace PromptEngine

/-! ## §1. Causes. -/

/-- What the grammar would have taken at the place where it failed. -/
inductive Expectation where
  | token (token : Token)
  | endOfBlock
  deriving DecidableEq, Repr

namespace Expectation

/-- The name of an expectation in an error message. -/
def describe : Expectation → String
  | .token t => t.describe
  | .endOfBlock => "end of block"

end Expectation

/-- The ways in which a code block can be malformed. -/
inductive SyntaxFault where
  /-- A character that begins no token. -/
  | strayCharacter (c : Char)
  | unterminatedLiteral
  /-- Two tokens touch and neither of them is punctuation. -/
  | unseparated
  /-- The grammar stops at a token, or at the end of the block. -/
  | unexpected (found : Option Token) (expected : List Expectation)
  | namelessVariable
  | positionalAfterNamed
  | repeatedName (name : String)
  deriving DecidableEq, Repr

namespace SyntaxFault

/-- The wording of a fault. -/
def message : SyntaxFault → String
  | .strayCharacter c => s!"unexpected character sequence `{c}`"
  | .unterminatedLiteral => "unterminated string literal"
  | .unseparated => "arguments must be separated by whitespace"
  | .unexpected none _ => "Unexpected end of block"
  | .unexpected (some token) _ => "Unexpected " ++ token.describe
  | .namelessVariable => "variable name is missing after '$'"
  | .positionalAfterNamed => "positional arguments must come before named arguments"
  | .repeatedName name => s!"duplicate named argument '{name}'"

/-- The expectations of a fault, in the order in which they are listed. -/
def expectations : SyntaxFault → List String
  | .unexpected _ expected => expected.map Expectation.describe
  | _ => []

end SyntaxFault

/-! ## §2. Located errors. -/

/-- A worded problem at a place in a template. -/
structure Diagnostic where
  span : Span
  message : String
  expected : List String
  deriving DecidableEq, Repr

namespace Diagnostic

/-- The one-line form of a diagnostic. -/
def toText (d : Diagnostic) : String :=
  s!"Syntax error at {d.span.toText}: {d.message}"

end Diagnostic

/-- A fault at a place; `block` is the code that it was found in, once that is known. -/
structure SyntaxError where
  span : Span
  fault : SyntaxFault
  block : Option String := none
  deriving DecidableEq, Repr

namespace SyntaxError

/-- Name the block that the error was found in. -/
def inBlock (block : String) (e : SyntaxError) : SyntaxError :=
  { e with block := some block }

/-- The same error in a template that has `offset` bytes put before it. -/
def shift (offset : Nat) (e : SyntaxError) : SyntaxError :=
  { e with span := e.span.shift offset }

/-- The wording of the error, introduced by the block it was found in. -/
def message (e : SyntaxError) : String :=
  match e.block with
  | some block => s!"invalid block `{block}`: {e.fault.message}"
  | none => e.fault.message

/-- The error as a diagnostic. -/
def diagnostic (e : SyntaxError) : Diagnostic :=
  ⟨e.span, e.message, e.fault.expectations⟩

end SyntaxError

end PromptEngine
