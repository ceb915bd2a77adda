/-
  PromptEngine.Engine.Invoke — function bodies, and invocation at any depth.

  A prompt function renders its template, which may invoke functions, and then leads a
  conversation, in which the model may ask for functions.  Invocations are therefore nested;
  `depth` is how deep they may be.  Everything a user asks of an engine is at the end, with the
  caller that carries out its invocations.
-/
import PromptEngine.Chat.WireFormat
import PromptEngine.Engine.Conversation
import PromptEngine.Engine.Render

namespace PromptEngine.Engine

variable {σ : Type}

/-! ## §1. Bodies. -/

/-- Compute the value of a native function. -/
def computeNative (d : Descriptor) (compute : Arguments → σ → Except EngineError Json × σ)
    (arguments : Arguments) : Exec σ (Except EngineError FunctionResult) := do
  Exec.emit (.call d arguments)
  let value ← Exec.act (compute arguments)
  return value.map fun value => { function := d, value }

/-- The result of a prompt function, with the prompt and the conversation as metadata. -/
def promptResult (d : Descriptor) (prompt : String) (reply : Message) (history : History) :
    FunctionResult :=
  { function := d
    value := .string reply.text
    metadata := .ofList
      [("rendered_prompt", .string prompt), ("messages", history.toJson.canonical)] }

/-- Render a prompt and ask a chat service.  The arguments' own settings come before those of the
function. -/
def askPrompt (e : Engine σ) (invoke : Caller σ Outcome) (d : Descriptor) (template : Template)
    (settings : Table Settings) (arguments : Arguments) :
    Exec σ (Except EngineError FunctionResult) :=
  Exec.orFail (e.renderTemplate invoke template arguments e.config.trust) fun prompt =>
    match e.selectService (arguments.settings.or (some settings)) with
    | .error error => pure (.error error)
    | .ok (service, settings) => do
      let (reply, history) ← e.converse invoke e.config.conversation false service settings
        arguments [.user prompt]
      return reply.map fun reply => promptResult d prompt reply history

/-- Carry out the body of a function; `invoke` invokes the functions that it needs. -/
def carryOut (e : Engine σ) (invoke : Caller σ Outcome) : Caller σ FunctionResult :=
  fun f arguments =>
    match f.descriptor.bindDefaults arguments with
    | .error error => pure (.error error)
    | .ok arguments =>
      match f.body with
      | .native compute => computeNative f.descriptor compute arguments
      | .prompt template settings =>
        e.askPrompt invoke f.descriptor template settings arguments

/-- Invoke functions, with at most `depth` invocations inside one another. -/
def caller (e : Engine σ) : Nat → Caller σ Outcome
  | 0 => fun _ _ => Exec.exhausted
  | depth + 1 => e.runFunction (e.carryOut (e.caller depth))

/-! ## §2. What a user asks for. -/

/-- Invoke a function by the names of its collection and itself. -/
def invoke (e : Engine σ) (call : Caller σ Outcome) (collection name : String)
    (arguments : Arguments) : Exec σ (Except EngineError Outcome) :=
  match e.registry.get collection name with
  | .error error => pure (.error error)
  | .ok f => call f arguments

/-- The function that a prompt is invoked as. -/
def inlinePrompt (prompt : Template) : Function σ :=
  (Function.ofTemplate "inline" prompt).inCollection "prompts"

/-- Invoke a prompt as a function of its own. -/
def invokePrompt (call : Caller σ Outcome) (prompt : String) (arguments : Arguments) :
    Exec σ (Except EngineError Outcome) :=
  match Template.parse prompt with
  | .error error => pure (.error (.template error))
  | .ok template => call (inlinePrompt template) arguments

/-- Answer the tool calls of a reply in a history.  Only if all of them can be answered do the
answers join it. -/
def answerTools (e : Engine σ) (depth : Nat) (history : History) (requests : List ToolCall)
    (arguments : Arguments) : Exec σ (Except EngineError Unit × History) :=
  e.answerRound (.atOnce (e.caller depth)) (List.range requests.length) history requests arguments

/-- Read a template and render it. -/
def render (e : Engine σ) (call : Caller σ Outcome) (source : String) (arguments : Arguments) :
    Exec σ (Except EngineError String) :=
  match Template.parse source with
  | .error error => pure (.error (.template error))
  | .ok template => e.renderTemplate call template arguments e.config.trust

end PromptEngine.Engine
