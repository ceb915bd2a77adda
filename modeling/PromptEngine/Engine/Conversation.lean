/-
  PromptEngine.Engine.Conversation — conversations in which a model may ask for tools.

  A conversation is a row of rounds.  In a round the service is asked for a reply, which joins the
  history; if it requests tool calls, these are carried out at the same time, their results join
  the history in the order of the requests, and the next round begins.  The conversation ends with
  a reply that requests nothing, or when its rounds are used up.

  The functions, hooks and services of an engine answer at once, so that each of its tool calls is
  done in the turn in which it is begun.  Tool calls that have to wait may go on in any order
  (`resolveRound`).
-/
import PromptEngine.Chat.Accumulator
import PromptEngine.Chat.ToolArguments
import PromptEngine.Engine.Pipeline
import PromptEngine.Engine.Round

namespace PromptEngine

/-- How a conversation is led. -/
structure ConversationOptions where
  /-- Whether tool calls are carried out; else they are left to the caller. -/
  autoInvoke : Bool
  /-- How often the model may be asked, if tool calls are carried out. -/
  maxAttempts : Nat

namespace ConversationOptions

/-- The number of rounds that a conversation may have. -/
def rounds (o : ConversationOptions) : Nat :=
  if o.autoInvoke then max 1 o.maxAttempts else 1

end ConversationOptions

/-- Something that starts invocations of functions, given their arguments. -/
abbrev Starter (σ α : Type) :=
  Function σ → Arguments → Job σ (Except EngineError α)

/-- Invocations that are done in a single act. -/
def Starter.atOnce {σ α : Type} (invoke : Caller σ α) : Starter σ α :=
  fun f arguments => .once (invoke f arguments)

/-- The options that a configuration gives. -/
def Config.conversation (c : Config) : ConversationOptions :=
  { autoInvoke := c.autoInvoke, maxAttempts := c.maxAttempts }

namespace Engine

variable {σ : Type}

/-! ## §1. Tool calls. -/

/-- The answer to a tool call whose arguments are not a JSON object. -/
def malformedArguments : String :=
  "The tool call arguments are malformed, please try again."

/-- The answer to a tool call that lacks arguments. -/
def missingArguments (names : List String) : String :=
  "The tool call is missing required arguments: " ++ ", ".intercalate names
    ++ ". Please try again."

/-- What a request for a tool comes to. -/
inductive ToolRequest (σ : Type) where
  /-- A message that answers the request without a call. -/
  | answer (message : Message)
  /-- A call of a function. -/
  | call (function : Function σ) (arguments : Arguments)

/-- The required arguments that are neither given nor declared with a default. -/
def missingNames (d : Descriptor) (arguments : Arguments) : List String :=
  (d.parameters.filter fun p => p.required && p.default?.isNone && !arguments.contains p.name).map
    (·.name)

/-- Read a request for a tool.  The arguments that the model gives are written over a copy of the
conversation's arguments. -/
def prepareTool (e : Engine σ) (arguments : Arguments) (request : ToolCall) :
    Except EngineError (ToolRequest σ) :=
  match request.readArguments with
  | .error _ => .ok (.answer (.toolResult request.id request.name malformedArguments))
  | .ok given => do
    let f ← e.registry.resolveTool request.name
    let arguments := arguments.insertAll given
    match missingNames f.descriptor arguments with
    | [] => return .call f arguments
    | names =>
      return .answer (.toolResult request.id f.descriptor.toolName (missingArguments names))

/-- The job that a request for a tool is. -/
def toolJob (e : Engine σ) (invoke : Starter σ Outcome) (arguments : Arguments)
    (request : ToolCall) : Job σ (Except EngineError Message) :=
  match e.prepareTool arguments request with
  | .error error => .done (.error error)
  | .ok (.answer message) => .done (.ok message)
  | .ok (.call f arguments) =>
    (invoke f arguments).map fun outcome =>
      outcome.map fun outcome => .toolResult request.id f.descriptor.toolName outcome.text

/-- Carry out a request for a tool. -/
def resolveTool (e : Engine σ) (invoke : Caller σ Outcome) (arguments : Arguments)
    (request : ToolCall) : Exec σ (Except EngineError Message) :=
  (e.toolJob (.atOnce invoke) arguments request).alone

/-- Carry out requests at the same time, as a schedule says; a failure stops none of the others.
The outcomes stand in the order of the requests. -/
def resolveRound (e : Engine σ) (invoke : Starter σ Outcome) (schedule : List Nat)
    (arguments : Arguments) (requests : List ToolCall) :
    Exec σ (List (Except EngineError Message)) :=
  Round.ofJobs (requests.map (e.toolJob invoke arguments)) schedule

/-- Carry out requests whose calls do not wait.  Each has one turn, in which it is done. -/
def resolveEach (e : Engine σ) (invoke : Caller σ Outcome) (arguments : Arguments)
    (requests : List ToolCall) : Exec σ (List (Except EngineError Message)) :=
  e.resolveRound (.atOnce invoke) (List.range requests.length) arguments requests

/-- The values of several outcomes, or the first failure among them. -/
def collect {ε α : Type} : List (Except ε α) → Except ε (List α)
  | [] => .ok []
  | outcome :: rest => do
    let value ← outcome
    let more ← collect rest
    return value :: more

/-- The messages that answer the requests of a reply. -/
def resolveTools (e : Engine σ) (invoke : Caller σ Outcome) (arguments : Arguments)
    (requests : List ToolCall) : Exec σ (Except EngineError (List Message)) := do
  return collect (← e.resolveEach invoke arguments requests)

/-- What the outcomes of tool calls make of a history.  Only if all of them are messages do they
join it. -/
def joinAnswers (history : History) (answers : List (Except EngineError Message)) :
    Except EngineError Unit × History :=
  match collect answers with
  | .error error => (.error error, history)
  | .ok messages => (.ok (), history ++ messages)

/-- Answer tool calls in a history, once all of them have an outcome.  They are carried out at the
same time, as a schedule says. -/
def answerRound (e : Engine σ) (invoke : Starter σ Outcome) (schedule : List Nat)
    (history : History) (requests : List ToolCall) (arguments : Arguments) :
    Exec σ (Except EngineError Unit × History) := do
  return joinAnswers history (← e.resolveRound invoke schedule arguments requests)

/-! ## §2. Replies. -/

/-- The first of the messages that a service gave. -/
def firstReply (service : Service σ) : List Message → Except EngineError Message
  | [] => .error service.noReply
  | message :: _ => .ok message

/-- Ask for a complete reply. -/
def requestReply (service : Service σ) (request : ChatRequest) :
    Exec σ (Except EngineError Message) := do
  Exec.emit (.request service.id request.history request.settings request.tools)
  match ← Exec.act (service.complete request) with
  | .error failure => return .error (.service failure)
  | .ok messages => return firstReply service messages

/-- Whether a fragment that has just been taken in ends the reply: it ends its choice, and no
lower choice has arrived. -/
def endsReply (sum : Accumulator) (f : Fragment) : Bool :=
  f.isTerminal && sum.first? == some f.choice

/-- Take in the fragments of a stream up to the end of the reply.  The fragments behind it are not
looked at, so they need not have been made. -/
def takeIn (sum : Accumulator) :
    List (Except String Fragment) → Exec σ (Except EngineError Accumulator)
  | [] => pure (.ok sum)
  | .error failure :: _ => pure (.error (.service failure))
  | .ok f :: rest => do
    Exec.emit (.fragment f)
    let sum := sum.push f
    if endsReply sum f then return .ok sum else takeIn sum rest

/-- Ask for a streamed reply and add up its fragments. -/
def requestStream (service : Service σ) (request : ChatRequest) :
    Exec σ (Except EngineError Message) := do
  Exec.emit (.request service.id request.history request.settings request.tools)
  match ← Exec.act (service.stream request) with
  | .error failure => return .error (.service failure)
  | .ok fragments =>
    Exec.orFail (takeIn {} fragments) fun sum =>
      pure (firstReply service sum.messages)

/-! ## §3. Rounds. -/

/-- Lead up to `remaining` rounds.  `ask` asks for a reply, `resolve` answers tool calls, and
`spent` is the failure if no round remains.  Given back are the last reply and the history. -/
def leadRounds (ask : History → Exec σ (Except EngineError Message))
    (resolve : List ToolCall → Exec σ (Except EngineError (List Message))) (autoInvoke : Bool)
    (spent : EngineError) (remaining : Nat) (history : History) :
    Exec σ (Except EngineError Message × History) :=
  match remaining with
  | 0 => pure (.error spent, history)
  | remaining + 1 => do
    match ← ask history with
    | .error error => return (.error error, history)
    | .ok reply =>
      let history := history ++ [reply]
      if !reply.hasToolCalls || !autoInvoke || remaining == 0 then
        return (.ok reply, history)
      match ← resolve reply.toolCalls with
      | .error error => return (.error error, history)
      | .ok messages => leadRounds ask resolve autoInvoke spent remaining (history ++ messages)

/-- Lead a conversation with a service.  `streamed` says whether replies are streamed. -/
def converse (e : Engine σ) (invoke : Caller σ Outcome) (options : ConversationOptions)
    (streamed : Bool) (service : Service σ) (settings : Settings) (arguments : Arguments)
    (history : History) : Exec σ (Except EngineError Message × History) :=
  let ask (history : History) :=
    let request : ChatRequest := { history, settings, tools := e.registry.descriptors }
    if streamed then requestStream service request else requestReply service request
  leadRounds ask (e.resolveTools invoke arguments) options.autoInvoke service.noReply
    options.rounds history

end Engine

end PromptEngine
