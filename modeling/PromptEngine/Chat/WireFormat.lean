/-
  PromptEngine.Chat.WireFormat — conversations, fragments and settings as JSON.

  Each type has `toJson` and a reader `ofDocument?`.  Fields are written in a fixed order; what is
  absent or empty is not written.  Metadata and further settings keep the order in which they
  were given.  `reads?` takes the text of one value.
-/
import PromptEngine.Arguments
import PromptEngine.Chat.Fragment
import PromptEngine.Json.Reader
import PromptEngine.Json.Record

namespace PromptEngine

open Json Json.Document

/-- Write a list of values, unless it is empty. -/
def listMember? {α : Type} (write : α → Json) (items : List α) : Option Json :=
  if items.isEmpty then none else some (.array (items.map write))

/-! ## §1. Words. -/

namespace Role

/-- The roles by their names. -/
def words : List (String × Role) :=
  [("system", .system), ("user", .user), ("assistant", .assistant), ("tool", .tool)]

/-- The name of a role. -/
def toText : Role → String
  | .system => "system"
  | .user => "user"
  | .assistant => "assistant"
  | .tool => "tool"

end Role

namespace FinishReason

/-- The finish reasons by their names. -/
def words : List (String × FinishReason) :=
  [("stop", .stop), ("length", .length), ("tool_calls", .toolCalls),
   ("content_filter", .contentFilter)]

/-- The name of a finish reason. -/
def toText : FinishReason → String
  | .stop => "stop"
  | .length => "length"
  | .toolCalls => "tool_calls"
  | .contentFilter => "content_filter"

end FinishReason

/-! ## §2. Tool calls. -/

namespace ToolCall

/-- A tool call as JSON. -/
def toJson (c : ToolCall) : Json :=
  .object [("id", .string c.id), ("name", .string c.name), ("arguments", .string c.arguments)]

/-- Read a tool call. -/
def ofDocument? (d : Document) : Option ToolCall := do
  let fields ← d.fields? ["id", "name", "arguments"]
  return {
    id := ← required? text? fields "id"
    name := ← required? text? fields "name"
    arguments := ← required? text? fields "arguments" }

end ToolCall

namespace ToolCallDelta

/-- A part of a tool call as JSON. -/
def toJson (d : ToolCallDelta) : Json :=
  .object <| present
    [("index", some (.ofNat d.index)), ("id", d.id.map .string), ("name", d.name.map .string),
     ("arguments", d.arguments.map .string)]

/-- Read a part of a tool call. -/
def ofDocument? (d : Document) : Option ToolCallDelta := do
  let fields ← d.fields? ["index", "id", "name", "arguments"]
  return {
    index := ← required? index? fields "index"
    id := ← optional? text? fields "id"
    name := ← optional? text? fields "name"
    arguments := ← optional? text? fields "arguments" }

end ToolCallDelta

/-! ## §3. Messages. -/

namespace Message

/-- A message as JSON. -/
def toJson (m : Message) : Json :=
  .object <| present
    [("role", some (.string m.role.toText)),
     ("content", m.content.map .string),
     ("tool_calls", listMember? ToolCall.toJson m.toolCalls),
     ("tool_call_id", m.toolCallId.map .string),
     ("name", m.name.map .string),
     ("finish_reason", m.finishReason.map (.string ·.toText)),
     ("metadata", if m.metadata.isEmpty then none else some (.object m.metadata.entries))]

/-- Read a message that may hold `limit` levels. -/
def ofDocument? (limit : Nat) (d : Document) : Option Message := do
  let fields ← d.fields?
    ["role", "content", "tool_calls", "tool_call_id", "name", "finish_reason", "metadata"]
  return {
    role := ← required? (word? Role.words) fields "role"
    content := ← optional? text? fields "content"
    toolCalls := ← default? [] (list? ToolCall.ofDocument?) fields "tool_calls"
    toolCallId := ← optional? text? fields "tool_call_id"
    name := ← optional? text? fields "name"
    finishReason := ← optional? (word? FinishReason.words) fields "finish_reason"
    metadata := ← default? .empty (table? (limit - 2)) fields "metadata" }

end Message

namespace History

/-- A conversation as JSON. -/
def toJson (h : History) : Json :=
  .array (h.map Message.toJson)

/-- Read a conversation that may hold `limit` levels. -/
def ofDocument? (limit : Nat) (d : Document) : Option History :=
  list? (Message.ofDocument? (limit - 1)) d

end History

/-! ## §4. Fragments. -/

namespace Fragment

/-- A fragment as JSON. -/
def toJson (f : Fragment) : Json :=
  .object <| present
    [("choice_index", some (.ofNat f.choice)),
     ("role", f.role.map (.string ·.toText)),
     ("content", f.content.map .string),
     ("tool_calls", listMember? ToolCallDelta.toJson f.toolCalls),
     ("finish_reason", f.finishReason.map (.string ·.toText))]

/-- Read a fragment. -/
def ofDocument? (d : Document) : Option Fragment := do
  let fields ← d.fields? ["choice_index", "role", "content", "tool_calls", "finish_reason"]
  return {
    choice := ← required? index? fields "choice_index"
    role := ← optional? (word? Role.words) fields "role"
    content := ← optional? text? fields "content"
    toolCalls := ← default? [] (list? ToolCallDelta.ofDocument?) fields "tool_calls"
    finishReason := ← optional? (word? FinishReason.words) fields "finish_reason" }

end Fragment

/-! ## §5. Settings. -/

namespace Settings

/-- The ids of settings, as members. -/
def idMembers (s : Settings) : List (String × Json) :=
  present [("service_id", s.serviceId.map .string), ("model_id", s.modelId.map .string)]

/-- Settings as JSON. -/
def toJson (s : Settings) : Json :=
  .object (s.idMembers ++ s.extensions.entries)

/-- Whether a member of the object is one of the ids. -/
def isIdMember (member : Option String × Document) : Bool :=
  member.1 == some "service_id" || member.1 == some "model_id"

/-- Read settings that may hold `limit` levels.  They are an object; what is neither of the ids is
kept. -/
def ofDocument? (limit : Nat) : Document → Option Settings
  | .object members => do
    let ids ← memberFields? ["service_id", "model_id"] (members.filter isIdMember)
    let others ← memberValues? (limit - 1) (members.filter (!isIdMember ·))
    return {
      serviceId := ← optional? text? ids "service_id"
      modelId := ← optional? text? ids "model_id"
      extensions := .ofList others }
  | _ => none

end Settings

end PromptEngine
