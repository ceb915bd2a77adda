/-
  PromptEngine.Engine.Function — what an engine can call: functions and chat services.

  Both are given by the user and act on the state of the engine, and both answer at once.  Neither
  is handed the engine itself: a native function sees its arguments and the state, a service sees
  a request and the state, and only the body of a prompt makes the engine do something, in the one
  way that there is for all prompts.
-/
import PromptEngine.Chat.Fragment
import PromptEngine.Engine.Error
import PromptEngine.Function.Binding
import PromptEngine.Template.Basic

namespace PromptEngine

/-! ## §1. Functions. -/

/-- How a function comes to its result.  There are no other bodies, so none that calls functions of
the engine by itself. -/
inductive FunctionBody (σ : Type) where
  /-- It computes a value from its arguments and the state. -/
  | native (compute : Arguments → σ → Except EngineError Json × σ)
  /-- It renders a template and asks a chat service.  The settings are used if the arguments carry
  none. -/
  | prompt (template : Template) (settings : Table Settings)

/-- A function: its description and its body. -/
structure Function (σ : Type) where
  descriptor : Descriptor
  body : FunctionBody σ

namespace Function

variable {σ : Type}

/-- A native function that does not look at the state. -/
def ofPure (descriptor : Descriptor) (value : Arguments → Except EngineError Json) : Function σ :=
  { descriptor, body := .native fun arguments s => (value arguments, s) }

/-- A function that asks a chat service.  Each variable of its template is a parameter that may be
left out. -/
def ofTemplate (name : String) (template : Template) (description : Option String := none)
    (settings : List Settings := []) : Function σ :=
  { descriptor :=
      { name, description, kind := .prompt
        parameters := template.variableNames.map fun name => { name } }
    body := .prompt template (.ofList (settings.map fun s => (s.key, s))) }

/-- The same function in a collection. -/
def inCollection (collection : String) (f : Function σ) : Function σ :=
  { f with descriptor := { f.descriptor with collection } }

/-- The name of a function in its collection. -/
def name (f : Function σ) : String :=
  f.descriptor.name

end Function

/-! ## §2. Chat services. -/

/-- What a request to a chat service holds: the conversation, the settings, and the functions that
the model may ask for. -/
structure ChatRequest where
  history : History
  settings : Settings
  tools : List Descriptor

/-- A chat service.  A streamed reply is a row of fragments, any of which may fail to arrive.  The
row is finite and is there as a whole when the stream begins; of an endless one, or one that is
made while it is read, it is as much as is ever read. -/
structure Service (σ : Type) where
  id : String
  complete : ChatRequest → σ → Except String (List Message) × σ
  stream : ChatRequest → σ → Except String (List (Except String Fragment)) × σ

namespace Service

variable {σ : Type}

/-- Messages as a stream: each is one fragment of a choice of its own. -/
def wholeFragments (choice : Nat) : List Message → List (Except String Fragment)
  | [] => []
  | m :: rest => .ok (.ofMessage choice m) :: wholeFragments (choice + 1) rest

/-- A service that streams each complete message as a single fragment. -/
def ofComplete (id : String) (complete : ChatRequest → σ → Except String (List Message) × σ) :
    Service σ :=
  { id, complete
    stream := fun request s =>
      let (reply, s) := complete request s
      (reply.map (wholeFragments 0), s) }

/-- The failure of a service that gave no message. -/
def noReply (service : Service σ) : EngineError :=
  .service s!"chat completion service '{service.id}' returned no message"

end Service

end PromptEngine
