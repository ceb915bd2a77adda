/-
  PromptEngine.Proofs.Template.Bare — blocks without places, and how they are written.

  A bare block is a block of a template that has forgotten the bytes it was read from.  Three
  things are said about it here:

    • `Block.bare` — which bare block a block that was read stands for,
    • `tokens` — the row of tokens that spells it,
    • `written` — the text that spells it: plain text as it is, code between double braces, a
      literal with a backslash before each backslash and each quote of its own, and one space
      before each argument.

  `Writable` are the rows of blocks that a text can be written for; `placed` puts the blocks at
  the bytes of that text.
-/
import Mathlib.Data.List.Chain
import PromptEngine.Template.Basic

namespace PromptEngine

/-! ## §1. Bare blocks. -/

/-- An argument, before it is told which rules of order it has to keep. -/
inductive BareArgument where
  | positional (operand : Operand)
  | named (name : String) (operand : Operand)
  deriving DecidableEq, Repr

/-- The invocation of a function, without places. -/
structure BareCall where
  function : FunctionRef
  positional : List Operand := []
  named : List (String × Operand) := []
  deriving DecidableEq, Repr

/-- The arguments of a call in the order in which they are written. -/
def BareCall.arguments (call : BareCall) : List BareArgument :=
  call.positional.map .positional ++ call.named.map fun (name, operand) => .named name operand

/-- A block of a template, without places. -/
inductive BareBlock where
  | text (text : String)
  | value (value : QuotedValue)
  | variable (name : String)
  | argument (name : String) (operand : Operand)
  | call (call : BareCall)
  deriving DecidableEq, Repr

/-- A named argument without places. -/
def NamedOperand.bare (n : NamedOperand) : String × Operand :=
  (n.name.node, n.operand.node)

/-- A call without places. -/
def Invocation.bare (call : Invocation) : BareCall :=
  { function := call.function.node
    positional := call.positional.map (·.node)
    named := call.named.values.map (·.node.bare) }

/-- A block without places. -/
def Block.bare : Block → BareBlock
  | .text t => .text t
  | .value v => .value v
  | .variable name => .variable name
  | .namedArgument argument => .argument argument.bare.1 argument.bare.2
  | .invocation c => .call c.bare

/-! ## §2. The tokens of a block. -/

/-- The token that spells an operand. -/
def Operand.token : Operand → Token
  | .value v => .literal v.quote v.value
  | .variable name => .variable name

/-- The tokens that spell an argument. -/
def BareArgument.tokens : BareArgument → List Token
  | .positional operand => [operand.token]
  | .named name operand => [.word name, .equals, operand.token]

/-- The tokens that spell a reference to a function. -/
def FunctionRef.tokens (f : FunctionRef) : List Token :=
  match f.collection with
  | some collection => [.word collection, .dot, .word f.name]
  | none => [.word f.name]

/-- The tokens that spell a code block; text has none. -/
def BareBlock.tokens : BareBlock → List Token
  | .text _ => []
  | .value v => [(Operand.value v).token]
  | .variable name => [(Operand.variable name).token]
  | .argument name operand => (BareArgument.named name operand).tokens
  | .call c => c.function.tokens ++ c.arguments.flatMap (·.tokens)

/-! ## §3. The text of a block. -/

/-- Protect the characters that a literal cannot hold as they are: a backslash is put before each
backslash and before each occurrence of the quote. -/
def Literal.escape (quote : Char) (text : List Char) : List Char :=
  text.flatMap fun c => if c = '\\' ∨ c = quote then ['\\', c] else [c]

/-- A literal between its quotes. -/
def QuotedValue.written (v : QuotedValue) : List Char :=
  v.quote.char :: (Literal.escape v.quote.char v.value.toList ++ [v.quote.char])

/-- An operand as it is written. -/
def Operand.written : Operand → List Char
  | .value v => v.written
  | .variable name => '$' :: name.toList

/-- An argument as it is written. -/
def BareArgument.written : BareArgument → List Char
  | .positional operand => operand.written
  | .named name operand => name.toList ++ '=' :: operand.written

/-- A call as it is written: the function, and its arguments with one space before each. -/
def BareCall.written (call : BareCall) : List Char :=
  call.function.toText.toList ++ call.arguments.flatMap fun a => ' ' :: a.written

/-- The code between the braces of a block; text has none. -/
def BareBlock.code : BareBlock → List Char
  | .text _ => []
  | .value v => (Operand.value v).written
  | .variable name => (Operand.variable name).written
  | .argument name operand => (BareArgument.named name operand).written
  | .call c => c.written

/-- A block as it is written: text as it is, code between double braces. -/
def BareBlock.written : BareBlock → List Char
  | .text t => t.toList
  | block => ['{', '{'] ++ block.code ++ ['}', '}']

/-- The text of a row of blocks. -/
def BareBlock.writeAll (blocks : List BareBlock) : String :=
  String.ofList (blocks.flatMap (·.written))

/-- The blocks, each at the bytes of the text that is written for it; the first one begins at
byte `pos`. -/
def BareBlock.placed (pos : Nat) : List BareBlock → List (Spanned BareBlock)
  | [] => []
  | block :: rest =>
    let stop := pos + byteSize block.written
    ⟨block, ⟨pos, stop⟩⟩ :: placed stop rest

/-! ## §4. Which blocks can be written. -/

/-- A variable has to have an identifier as its name; a literal may hold any text. -/
def Operand.WellFormed : Operand → Prop
  | .value _ => True
  | .variable name => isIdentifier name = true

/-- A call is well formed if its names are identifiers and the names of its named arguments are
distinct. -/
structure BareCall.WellFormed (call : BareCall) : Prop where
  collection : ∀ collection ∈ call.function.collection, isIdentifier collection = true
  name : isIdentifier call.function.name = true
  positional : ∀ operand ∈ call.positional, operand.WellFormed
  named : ∀ n ∈ call.named, isIdentifier n.1 = true ∧ n.2.WellFormed
  distinct : (call.named.map Prod.fst).Nodup

/-- Text has to be there and must not open a code region.  A named argument does not stand outside
of a call. -/
def BareBlock.WellFormed : BareBlock → Prop
  | .text t => t.toList ≠ [] ∧ ¬ ['{', '{'] <:+: t.toList
  | .value _ => True
  | .variable name => isIdentifier name = true
  | .argument _ _ => False
  | .call c => c.WellFormed

/-- Whether a block is plain text. -/
def BareBlock.IsText : BareBlock → Prop
  | .text _ => True
  | _ => False

/-- The rows of blocks that are read back from their text: no two texts stand side by side. -/
structure BareBlock.Writable (blocks : List BareBlock) : Prop where
  wellFormed : ∀ block ∈ blocks, block.WellFormed
  apart : blocks.IsChain fun a b => ¬ (a.IsText ∧ b.IsText)

end PromptEngine
