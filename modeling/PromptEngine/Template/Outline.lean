/-
  PromptEngine.Template.Outline — the blocks of a template, shown to people who debug it.
-/
import PromptEngine.Template.Basic
import PromptEngine.Text.Outline

namespace PromptEngine

open Outline

/-- A name. -/
def identifierOutline (name : String) : String :=
  variant "Identifier" [Quoted.text name]

/-- A quoted value. -/
def QuotedValue.outline (v : QuotedValue) : String :=
  record "ValueBlock" [("value", Quoted.text v.value), ("quote", Quoted.char v.quote.char)]

/-- A variable. -/
def variableOutline (name : String) : String :=
  record "VariableBlock" [("name", identifierOutline name)]

/-- An operand. -/
def Operand.outline : Operand → String
  | .value v => variant "Value" [v.outline]
  | .variable name => variant "Variable" [variableOutline name]

/-- A named argument. -/
def NamedOperand.outline (n : NamedOperand) : String :=
  record "NamedArgBlock"
    [("name", spanned identifierOutline n.name), ("value", spanned Operand.outline n.operand)]

/-- A reference to a function. -/
def FunctionRef.outline (f : FunctionRef) : String :=
  record "FunctionRef"
    [("collection", option (f.collection.map identifierOutline)),
     ("name", identifierOutline f.name)]

/-- An invocation. -/
def Invocation.outline (call : Invocation) : String :=
  record "InvocationBlock"
    [("function", spanned FunctionRef.outline call.function),
     ("positional", list (call.positional.map (spanned Operand.outline))),
     ("named", map (call.named.map (spanned NamedOperand.outline)).entries)]

/-- A block. -/
def Block.outline : Block → String
  | .text content => variant "Text" [Quoted.text content]
  | .value v => variant "Value" [v.outline]
  | .variable name => variant "Variable" [variableOutline name]
  | .namedArgument argument => variant "NamedArgument" [argument.outline]
  | .invocation call => variant "Invocation" [call.outline]

/-- A number, filled with blanks on the left to four places. -/
def padLeft (n : Nat) : String :=
  let digits := toString n
  String.ofList (List.replicate (4 - digits.length) ' ') ++ digits

/-- A number, filled with blanks on the right to four places. -/
def padRight (n : Nat) : String :=
  let digits := toString n
  digits ++ String.ofList (List.replicate (4 - digits.length) ' ')

namespace Template

/-- The blocks of a template, a line each, with the bytes that they were read from. -/
def outline (template : Template) : String :=
  String.join <| template.blocks.map fun b =>
    padLeft b.span.start ++ ".." ++ padRight b.span.stop ++ " " ++ b.node.outline ++ "\n"

end Template

end PromptEngine
