/-
  PromptEngine.Engine.Error — what can go wrong when functions are looked up, called and rendered.

  An error is a cause; `message` words it.  A failure that a function reports by itself is
  `failed`; the pipeline wraps it, like any other error of a call, in `execution`.
-/
import PromptEngine.Json.Printer
import PromptEngine.Template.SyntaxError

namespace PromptEngine

/-- Why the arguments of a tool call cannot be used. -/
inductive ToolArgumentsFault where
  /-- The text is no JSON. -/
  | malformed
  /-- The text is a JSON value, but no object. -/
  | notAnObject (value : Json)

namespace ToolArgumentsFault

/-- The wording of a fault. -/
def message : ToolArgumentsFault → String
  | .malformed => "not a JSON text"
  | .notAnObject value => "expected a JSON object, got `" ++ value.compact ++ "`"

end ToolArgumentsFault

/-- The errors of the engine. -/
inductive EngineError where
  | template (error : SyntaxError)
  | collectionNotFound (collection : String)
  | functionNotFound (collection function : String)
  /-- An unqualified name that no collection has. -/
  | unknownFunction (function : String)
  | duplicateFunction (collection function : String)
  | invalidName (name : String)
  | missingArgument (function parameter : String)
  | tooManyPositional (function : String) (accepted : Nat)
  | invalidToolArguments (function : String) (fault : ToolArgumentsFault)
  /-- A failure that a function reports in its own words. -/
  | failed (message : String)
  | execution (function : String) (cause : EngineError)
  | render (block : String) (cause : EngineError)
  | serviceNotFound (serviceId : Option String)
  | service (message : String)

namespace EngineError

/-- The wording of an error. -/
def message : EngineError → String
  | .template error => error.diagnostic.toText
  | .collectionNotFound collection => s!"collection '{collection}' not found"
  | .functionNotFound collection function =>
    s!"function '{function}' not found in collection '{collection}'"
  | .unknownFunction function => s!"function '{function}' not found in any collection"
  | .duplicateFunction collection function =>
    s!"function '{function}' is already registered in collection '{collection}'"
  | .invalidName name =>
    s!"invalid name '{name}': only ASCII letters, digits and '_' are allowed"
  | .missingArgument function parameter =>
    s!"missing required argument '{parameter}' for function '{function}'"
  | .tooManyPositional function accepted =>
    s!"function '{function}' accepts at most {accepted} positional argument(s)"
  | .invalidToolArguments function fault =>
    s!"invalid arguments for tool call '{function}': {fault.message}"
  | .failed message => message
  | .execution function cause =>
    s!"error occurred while invoking function '{function}': {cause.message}"
  | .render block cause => s!"error rendering block `{block}`: {cause.message}"
  | .serviceNotFound none => "no chat completion service registered"
  | .serviceNotFound (some id) => s!"no chat completion service registered under '{id}'"
  | .service message => s!"chat completion service failed: {message}"

/-- The qualified name of the function that an error is attributed to, if there is one. -/
def functionName? : EngineError → Option String
  | .execution function _ | .missingArgument function _ | .tooManyPositional function _
  | .invalidToolArguments function _ | .unknownFunction function => some function
  | .render _ cause => cause.functionName?
  | _ => none

end EngineError

end PromptEngine
