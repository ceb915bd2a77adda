/-
  PromptEngine.Engine.Render — the text that a template stands for.

  Blocks are rendered from left to right.  Plain text and values stand for themselves; the value
  of a variable and the result of a function are escaped unless they are trusted.  A variable
  without a value stands for nothing.  Arguments of functions are never escaped.
-/
import PromptEngine.Engine.Pipeline
import PromptEngine.Text.Markup

namespace PromptEngine.Engine

variable {σ : Type}

/-- Data as it is put into a text. -/
def substitute (trusted : Bool) (text : String) : String :=
  if trusted then text else Markup.escapeString text

/-- The text of a variable. -/
def renderVariable (arguments : Arguments) (trust : Trust) (name : String) : String :=
  match arguments.getText? name with
  | some text => substitute (trust.trustsVariable name) text
  | none => ""

/-- The text of an operand. -/
def renderOperand (arguments : Arguments) (trust : Trust) : Operand → String
  | .value value => value.value
  | .variable name => renderVariable arguments trust name

/-- The function that an invocation calls and the arguments it is given. -/
def prepareCall (e : Engine σ) (call : Invocation) (arguments : Arguments) :
    Except EngineError (Function σ × Arguments) := do
  let f ← e.registry.resolve call.function.node
  return (f, ← f.descriptor.bindCall call arguments)

/-- The text of an invocation. -/
def renderInvocation (e : Engine σ) (invoke : Caller σ Outcome) (arguments : Arguments)
    (trust : Trust) (call : Invocation) : Exec σ (Except EngineError String) :=
  match e.prepareCall call arguments with
  | .error error => pure (.error error)
  | .ok (f, bound) =>
    Exec.orFail (invoke f bound) fun outcome =>
      pure (.ok (substitute trust.trustsOutput outcome.text))

/-- The text of a block. -/
def renderBlock (e : Engine σ) (invoke : Caller σ Outcome) (arguments : Arguments) (trust : Trust) :
    Block → Exec σ (Except EngineError String)
  | .text text => pure (.ok text)
  | .value value => pure (.ok value.value)
  | .variable name => pure (.ok (renderVariable arguments trust name))
  | .namedArgument argument => pure (.ok (renderOperand arguments trust argument.operand.node))
  | .invocation call => e.renderInvocation invoke arguments trust call

/-- The text of several blocks; `raw` is the source of a block. -/
def renderBlocks (e : Engine σ) (invoke : Caller σ Outcome) (arguments : Arguments) (trust : Trust)
    (raw : Spanned Block → String) : List (Spanned Block) → Exec σ (Except EngineError String)
  | [] => pure (.ok "")
  | block :: rest => do
    match ← e.renderBlock invoke arguments trust block.node with
    | .error error => return .error (.render (raw block) error)
    | .ok text =>
      Exec.orFail (e.renderBlocks invoke arguments trust raw rest) fun more =>
        pure (.ok (text ++ more))

/-- Render a template; `invoke` invokes the functions it calls. -/
def renderTemplate (e : Engine σ) (invoke : Caller σ Outcome) (template : Template)
    (arguments : Arguments) (trust : Trust) : Exec σ (Except EngineError String) :=
  e.renderBlocks invoke arguments trust template.raw template.blocks

end PromptEngine.Engine
