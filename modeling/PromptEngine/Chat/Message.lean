/-
  PromptEngine.Chat.Message — the messages of a conversation.

  A message has an author's role, a content, the tool calls that it requests and, for the answer
  to such a request, the request's id.  A history is the list of messages so far; it only grows.
-/
import PromptEngine.Table
import PromptEngine.Json.Basic

namespace PromptEngine

/-- Who speaks. -/
inductive Role where
  | system
  | user
  | assistant
  | tool
  deriving DecidableEq, Repr

/-- Why a model ended its reply. -/
inductive FinishReason where
  | stop
  | length
  | toolCalls
  | contentFilter
  deriving DecidableEq, Repr

/-- A function call that a model requests; the arguments are JSON text as the model wrote it. -/
structure ToolCall where
  id : String
  name : String
  arguments : String
  deriving DecidableEq, Repr

/-- One message of a conversation. -/
structure Message where
  role : Role
  content : Option String := none
  toolCalls : List ToolCall := []
  /-- The id of the request that a tool message answers. -/
  toolCallId : Option String := none
  name : Option String := none
  finishReason : Option FinishReason := none
  metadata : Table Json := .empty

namespace Message

/-- A system message. -/
def system (content : String) : Message :=
  { role := .system, content := some content }

/-- A user's message. -/
def user (content : String) : Message :=
  { role := .user, content := some content }

/-- A model's complete reply. -/
def assistant (content : String) : Message :=
  { role := .assistant, content := some content, finishReason := some .stop }

/-- A model's reply that only requests tool calls. -/
def toolRequests (calls : List ToolCall) : Message :=
  { role := .assistant, toolCalls := calls, finishReason := some .toolCalls }

/-- The result of one tool call. -/
def toolResult (id name content : String) : Message :=
  { role := .tool, content := some content, toolCallId := some id, name := some name }

/-- The text of a message; one without content has none. -/
def text (m : Message) : String :=
  m.content.getD ""

/-- Whether a message requests tool calls. -/
def hasToolCalls (m : Message) : Bool :=
  !m.toolCalls.isEmpty

end Message

/-- A conversation, the oldest message first. -/
abbrev History := List Message

end PromptEngine
