/-
  PromptEngine.Chat.Fragment — the pieces in which a reply is streamed, and how they add up.

  A fragment belongs to one of the choices of a reply.  Of several fragments of a choice the first
  role and the last finish reason count, contents are joined, and the parts of tool calls are
  merged by their index: the first id counts, names and arguments are joined.
-/
import PromptEngine.Chat.Message

namespace PromptEngine

/-- Join a text to what is there. -/
def joinText : Option String → Option String → Option String
  | some text, some more => some (text ++ more)
  | none, more => more
  | text, none => text

/-! ## §1. Parts of tool calls. -/

/-- A part of the tool call with the given index. -/
structure ToolCallDelta where
  index : Nat
  id : Option String := none
  name : Option String := none
  arguments : Option String := none
  deriving DecidableEq, Repr

namespace ToolCallDelta

/-- Add a later part of the same tool call. -/
def merge (d more : ToolCallDelta) : ToolCallDelta :=
  { d with
    id := d.id.or more.id
    name := joinText d.name more.name
    arguments := joinText d.arguments more.arguments }

/-- The tool call that the parts add up to; one that was given no id is named by its index. -/
def toToolCall (d : ToolCallDelta) : ToolCall :=
  { id := d.id.getD s!"call_{d.index}"
    name := d.name.getD ""
    arguments := d.arguments.getD "" }

/-- Add a part to a list of tool calls: to the first one with its index, or at the end. -/
def mergeInto (more : ToolCallDelta) : List ToolCallDelta → List ToolCallDelta
  | [] => [more]
  | d :: rest => if d.index = more.index then d.merge more :: rest else d :: mergeInto more rest

end ToolCallDelta

/-! ## §2. Fragments. -/

/-- A fragment of a streamed reply, or what several of them add up to. -/
structure Fragment where
  choice : Nat
  role : Option Role := none
  content : Option String := none
  toolCalls : List ToolCallDelta := []
  finishReason : Option FinishReason := none
  deriving DecidableEq, Repr

/-- Two fragments of different choices cannot be joined. -/
structure ChoiceMismatch where
  expected : Nat
  found : Nat
  deriving DecidableEq, Repr

namespace ChoiceMismatch

/-- The wording of the error. -/
def message (e : ChoiceMismatch) : String :=
  s!"cannot append a fragment of choice {e.found} to choice {e.expected}"

end ChoiceMismatch

namespace Fragment

/-- A piece of content. -/
def text (choice : Nat) (content : String) : Fragment :=
  { choice, role := some .assistant, content := some content }

/-- A part of a tool call. -/
def toolCall (choice : Nat) (delta : ToolCallDelta) : Fragment :=
  { choice, role := some .assistant, toolCalls := [delta] }

/-- The end of a choice. -/
def finish (choice : Nat) (reason : FinishReason) : Fragment :=
  { choice, finishReason := some reason }

/-- The parts that whole tool calls are, numbered from `index`. -/
def wholeCalls (index : Nat) : List ToolCall → List ToolCallDelta
  | [] => []
  | call :: rest =>
    { index, id := some call.id, name := some call.name, arguments := some call.arguments }
      :: wholeCalls (index + 1) rest

/-- A message as one fragment. -/
def ofMessage (choice : Nat) (m : Message) : Fragment :=
  { choice
    role := some m.role
    content := m.content
    toolCalls := wholeCalls 0 m.toolCalls
    finishReason := m.finishReason }

/-- The message that the fragments add up to. -/
def toMessage (f : Fragment) : Message :=
  { role := f.role.getD .assistant
    content := some (f.content.getD "")
    toolCalls := f.toolCalls.map (·.toToolCall)
    finishReason := f.finishReason }

/-- Whether a fragment ends its choice. -/
def isTerminal (f : Fragment) : Bool :=
  f.finishReason = some .stop || f.finishReason = some .toolCalls

/-- Add a later fragment of the same choice. -/
def join (f more : Fragment) : Fragment :=
  { f with
    role := f.role.or more.role
    content := joinText f.content more.content
    toolCalls := more.toolCalls.foldl (fun calls delta => delta.mergeInto calls) f.toolCalls
    finishReason := more.finishReason.or f.finishReason }

/-- Add a later fragment, if it is of the same choice. -/
def append (f more : Fragment) : Except ChoiceMismatch Fragment :=
  if more.choice = f.choice then .ok (f.join more) else .error ⟨f.choice, more.choice⟩

end Fragment

end PromptEngine
