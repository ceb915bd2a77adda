/-
  PromptEngine.Function.Binding — the arguments of a call, from its template block to its body.

  `bindCall` writes the operands of an invocation over a copy of the caller's table; all operands
  are read from the caller's table.  `bindDefaults` fills in what the function declares and asks
  for the required arguments.
-/
import PromptEngine.Arguments
import PromptEngine.Engine.Error
import PromptEngine.Function.Descriptor
import PromptEngine.Template.Block

namespace PromptEngine

/-- The parameter that takes the one positional argument of a function without parameters. -/
def inputParameter : String := "input"

/-- The value of an operand, if its variable is there. -/
def Operand.value? (arguments : Arguments) : Operand → Option Json
  | .value v => some (.string v.value)
  | .variable name => arguments.get? name

namespace Descriptor

/-- The names that positional arguments are bound to, in order. -/
def positionalNames (d : Descriptor) : List String :=
  if d.parameters.isEmpty then [inputParameter] else d.parameters.map (·.name)

/-- The names that an invocation binds and their values, in the order in which they are bound.
Operands that have no value bind nothing. -/
def bindings (d : Descriptor) (call : Invocation) (arguments : Arguments) :
    List (String × Json) :=
  let positional := d.positionalNames.zip (call.positional.map (·.node))
  let named := call.named.entries.map fun (name, n) => (name, n.node.operand.node)
  (positional ++ named).filterMap fun (name, operand) =>
    (operand.value? arguments).map (name, ·)

/-- The table that an invocation calls the function with. -/
def bindCall (d : Descriptor) (call : Invocation) (arguments : Arguments) :
    Except EngineError Arguments :=
  if d.positionalNames.length < call.positional.length then
    .error (.tooManyPositional d.qualifiedName d.positionalNames.length)
  else .ok (arguments.insertAll (d.bindings call arguments))

/-- Fill in the defaults of parameters, one after the other; `function` is named in the error if a
required argument is missing. -/
def fillDefaults (function : String) : List Parameter → Arguments → Except EngineError Arguments
  | [], arguments => .ok arguments
  | p :: rest, arguments =>
    if arguments.contains p.name then fillDefaults function rest arguments
    else
      match p.default? with
      | some value => fillDefaults function rest (arguments.insert p.name value)
      | none =>
        if p.required then .error (.missingArgument function p.name)
        else fillDefaults function rest arguments

/-- Fill in the declared defaults and ask for the required arguments. -/
def bindDefaults (d : Descriptor) (arguments : Arguments) : Except EngineError Arguments :=
  fillDefaults d.qualifiedName d.parameters arguments

end Descriptor

end PromptEngine
