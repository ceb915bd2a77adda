/-
  PromptEngine.Chat.ToolArguments — the arguments that a model writes for a tool call.
-/
import PromptEngine.Chat.Message
import PromptEngine.Engine.Error
import PromptEngine.Json.Reader
import PromptEngine.Text.WhiteSpace

namespace PromptEngine.ToolCall

/-- Read the arguments of a call.  A blank text stands for no arguments; any other text has to be
a JSON object. -/
def readArguments (call : ToolCall) : Except ToolArgumentsFault (List (String × Json)) :=
  if call.arguments.toList.all isWhiteSpace then .ok []
  else
    match Json.read? call.arguments with
    | some (.object members) => .ok members
    | some value => .error (.notAnObject value)
    | none => .error .malformed

end PromptEngine.ToolCall
