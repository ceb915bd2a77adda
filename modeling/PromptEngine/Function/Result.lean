/-
  PromptEngine.Function.Result — what a function call gives back.
-/
import PromptEngine.Arguments
import PromptEngine.Function.Descriptor

namespace PromptEngine

/-- The value of a call, with the function that gave it and further information about the call. -/
structure FunctionResult where
  function : Descriptor
  value : Json
  metadata : Table Json := .empty

namespace FunctionResult

/-- A result without a value. -/
def empty (function : Descriptor) : FunctionResult :=
  { function, value := .null }

/-- The value as it is put into text. -/
def text (r : FunctionResult) : String :=
  r.value.toText

end FunctionResult

end PromptEngine
