/-
  PromptEngine.Builtin.Basic — the collections that every engine can be given.

  `text` and `math` compute; `time` tells the moment at which it was made, which the caller reads
  off a clock.
-/
import PromptEngine.Builtin.Math
import PromptEngine.Builtin.Text
import PromptEngine.Engine.Basic

namespace PromptEngine

/-- A moment in local time. -/
structure Clock where
  /-- Date and time with the offset from universal time, as in `2024-05-01T12:30:00+02:00`. -/
  now : String
  /-- The date, as in `2024-05-01`. -/
  today : String

namespace Builtin

variable {σ : Type}

/-- A function without arguments that tells a text. -/
def constant (name description value : String) : Function σ :=
  .ofPure { name, description := some description } fun _ => .ok (.string value)

/-- The functions of the collection `time`. -/
def timeFunctions (clock : Clock) : List (Function σ) :=
  [constant "now" "Current local date and time" clock.now,
   constant "today" "Current local date" clock.today]

/-- A collection of the given functions. -/
def collection (name description : String) (functions : List (Function σ)) :
    Except EngineError (Collection σ) := do
  (← Collection.create name (some description)).addAll functions

/-- The built-in collections. -/
def collections (clock : Clock) : Except EngineError (List (Collection σ)) := do
  return [← collection "text" "String helpers" textFunctions,
    ← collection "math" "Arithmetic on two numbers" mathFunctions,
    ← collection "time" "Current date and time" (timeFunctions clock)]

end Builtin

namespace Engine

variable {σ : Type}

/-- Add collections one after the other, up to the first that is refused. -/
def addCollections (e : Engine σ) : List (Collection σ) → Except EngineError Unit × Engine σ
  | [] => (.ok (), e)
  | c :: rest =>
    match e.addCollection c with
    | .ok e => e.addCollections rest
    | .error error => (.error error, e)

/-- Add the built-in collections. -/
def addBuiltins (e : Engine σ) (clock : Clock) : Except EngineError Unit × Engine σ :=
  match Builtin.collections clock with
  | .ok collections => e.addCollections collections
  | .error error => (.error error, e)

end Engine

end PromptEngine
