/-
  PromptEngine.Builtin.Text — the collection `text`: functions on texts.
-/
import PromptEngine.Engine.Registry
import PromptEngine.Text.Casing

namespace PromptEngine.Builtin

variable {σ : Type}

/-- The parameter that holds the text to work on. -/
def textParameter : Parameter :=
  { name := inputParameter, description := some "Text to transform", required := true
    typeName := some "string" }

/-- The text to work on. -/
def inputText (arguments : Arguments) : String :=
  (arguments.getText? inputParameter).getD ""

/-- A function from a text to a text. -/
def textFunction (name description : String) (transform : String → String) : Function σ :=
  .ofPure { name, description := some description, parameters := [textParameter] }
    fun arguments => .ok (.string (transform (inputText arguments)))

/-- A text with another one behind it. -/
def concat : Function σ :=
  .ofPure
    { name := "concat", description := some "Join two strings"
      parameters :=
        [textParameter,
         { name := "other", default? := some (.string ""), typeName := some "string" }] }
    fun arguments =>
      .ok (.string (inputText arguments ++ (arguments.getText? "other").getD ""))

/-- The number of characters of a text. -/
def length : Function σ :=
  .ofPure
    { name := "length", description := some "Number of characters in the text"
      parameters := [textParameter], returns := some "character count" }
    fun arguments => .ok (.ofNat (inputText arguments).length)

/-- The functions of the collection. -/
def textFunctions : List (Function σ) :=
  [textFunction "uppercase" "Convert text to upper case" Casing.upper,
   textFunction "lowercase" "Convert text to lower case" Casing.lower,
   textFunction "trim" "Remove leading and trailing whitespace" fun text =>
     String.ofList (trim text.toList),
   concat,
   length]

end PromptEngine.Builtin
