/-
  PromptEngine.Arguments — the tables that renders and function calls are given.

  An argument table maps names to JSON values.  It may carry execution settings for chat services,
  each stored under the id of the service it is meant for.
-/
import PromptEngine.Json.Printer
import PromptEngine.Table

namespace PromptEngine

/-- How a value is put into text: a string as it is, null as nothing, anything else as JSON. -/
def Json.toText : Json → String
  | .string s => s
  | .null => ""
  | value => value.compact

/-! ## §1. Settings. -/

/-- The settings of one request to a chat service. -/
structure Settings where
  serviceId : Option String := none
  modelId : Option String := none
  /-- Further options, handed on as they are. -/
  extensions : Table Json := .empty

namespace Settings

instance : Inhabited Settings := ⟨{}⟩

/-- The key of settings that name no service. -/
def defaultKey : String := "default"

/-- The key that settings are stored under. -/
def key (s : Settings) : String :=
  s.serviceId.getD defaultKey

/-- Settings that name a service and nothing else. -/
def forService (id : String) : Settings :=
  { serviceId := some id }

/-- Whether two settings say the same. -/
def same (a b : Settings) : Bool :=
  a.serviceId == b.serviceId && a.modelId == b.modelId
    && a.extensions.sameContent (· == ·) b.extensions

end Settings

/-! ## §2. Argument tables. -/

/-- A table of named values with the settings attached to it. -/
structure Arguments where
  values : Table Json := .empty
  settings : Option (Table Settings) := none

namespace Arguments

instance : Inhabited Arguments := ⟨{}⟩

/-- The table that results from writing several values. -/
def ofList (values : List (String × Json)) : Arguments :=
  { values := .ofList values }

/-- Write a value to a name. -/
def insert (a : Arguments) (name : String) (value : Json) : Arguments :=
  { a with values := a.values.insert name value }

/-- Write several values, one after the other. -/
def insertAll (a : Arguments) (values : List (String × Json)) : Arguments :=
  { a with values := a.values.insertAll values }

/-- Take a name out. -/
def erase (a : Arguments) (name : String) : Arguments :=
  { a with values := a.values.erase name }

/-- What a name holds. -/
def get? (a : Arguments) (name : String) : Option Json :=
  a.values.get? name

/-- What a name holds, as text. -/
def getText? (a : Arguments) (name : String) : Option String :=
  (a.get? name).map Json.toText

/-- Whether a name holds something. -/
def contains (a : Arguments) (name : String) : Bool :=
  a.values.contains name

/-- Attach settings under their key. -/
def addSettings (a : Arguments) (s : Settings) : Arguments :=
  { a with settings := some ((a.settings.getD .empty).insert s.key s) }

/-- Whether two tables have the same content, settings included, in whatever order. -/
def same (a b : Arguments) : Bool :=
  a.values.sameContent (· == ·) b.values &&
    match a.settings, b.settings with
    | none, none => true
    | some s, some t => s.sameContent Settings.same t
    | _, _ => false

end Arguments

end PromptEngine
