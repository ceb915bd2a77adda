/-
  PromptEngine.Template.Block — the syntax tree of a template.

  A template is a row of blocks: plain text, a quoted value, a variable, or the invocation of a
  function with positional and named arguments.  A named argument is a node of the tree like the
  blocks, but it stands inside an invocation; reading a template makes no block of it.
-/
import PromptEngine.Table
import PromptEngine.Template.Token

namespace PromptEngine

/-- A literal as it stands in the tree: its content and the quote it was written with. -/
structure QuotedValue where
  value : String
  quote : Quote
  deriving DecidableEq, Repr

/-- What a function can be given: a literal, or the value of a variable. -/
inductive Operand where
  | value (value : QuotedValue)
  | variable (name : String)
  deriving DecidableEq, Repr

namespace Operand

/-- The variable that an operand reads, if it reads one. -/
def read? : Operand → Option String
  | .value _ => none
  | .variable name => some name

end Operand

/-- An argument given by the name of its parameter. -/
structure NamedOperand where
  name : Spanned String
  operand : Spanned Operand
  deriving DecidableEq, Repr

/-- A function, with or without the collection it is looked up in. -/
structure FunctionRef where
  collection : Option String
  name : String
  deriving DecidableEq, Repr

namespace FunctionRef

/-- A reference is written with a dot after its collection. -/
def toText (f : FunctionRef) : String :=
  match f.collection with
  | some collection => s!"{collection}.{f.name}"
  | none => f.name

end FunctionRef

/-- The invocation of a function; the positional arguments stand before the named ones, which are
kept under their names. -/
structure Invocation where
  function : Spanned FunctionRef
  positional : List (Spanned Operand)
  named : Table (Spanned NamedOperand)
  deriving DecidableEq, Repr

namespace Invocation

/-- The operands of an invocation in the order in which they are written. -/
def operands (call : Invocation) : List Operand :=
  call.positional.map (·.node) ++ call.named.values.map (·.node.operand.node)

end Invocation

/-- One block of a template. -/
inductive Block where
  | text (text : String)
  | value (value : QuotedValue)
  | variable (name : String)
  | namedArgument (argument : NamedOperand)
  | invocation (call : Invocation)
  deriving DecidableEq, Repr

/-- The kinds of nodes in the tree of a template. -/
inductive NodeKind where
  | text
  | value
  | variable
  | namedArgument
  | invocation
  deriving DecidableEq, Repr

namespace Block

/-- The kind of a block. -/
def kind : Block → NodeKind
  | .text _ => .text
  | .value _ => .value
  | .variable _ => .variable
  | .namedArgument _ => .namedArgument
  | .invocation _ => .invocation

/-- The variables that a block reads, in the order in which they are written. -/
def variableNames : Block → List String
  | .text _ | .value _ => []
  | .variable name => [name]
  | .namedArgument argument => argument.operand.node.read?.toList
  | .invocation call => call.operands.filterMap Operand.read?

end Block

end PromptEngine
