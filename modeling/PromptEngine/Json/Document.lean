/-
  PromptEngine.Json.Document — what a JSON text says, before it is given a meaning.

  A document keeps the members of an object as they were written: in their order, and with
  repeated names.  A number that is too large for a real and a string with half of a surrogate
  pair are well-formed texts without a value; they are kept as such, since a reader that skips
  them never asks for it.  `value?` gives the canonical value of a document, if its nesting stays
  within a limit and all its parts have values.
-/
import PromptEngine.Json.Basic

namespace PromptEngine.Json

/-- A JSON text as written. -/
inductive Document where
  | null
  | bool (value : Bool)
  | number (value : Option Number)
  | string (value : Option String)
  | array (items : List Document)
  | object (members : List (Option String × Document))
  deriving Inhabited

namespace Document

/-- How many values may be nested in each other. -/
def nestingLimit : Nat := 127

mutual

/-- The value of a document that may hold `limit` more levels. -/
def value? (limit : Nat) : Document → Option Json
  | .null => some .null
  | .bool b => some (.bool b)
  | .number n => n.map .number
  | .string s => s.map .string
  | .array items =>
    match limit with
    | 0 => none
    | limit + 1 => (values? limit items).map .array
  | .object members =>
    match limit with
    | 0 => none
    | limit + 1 => (memberValues? limit members).map ofMembers

/-- The values of several documents. -/
def values? (limit : Nat) : List Document → Option (List Json)
  | [] => some []
  | d :: rest => do
    let value ← value? limit d
    let more ← values? limit rest
    return value :: more

/-- The names and values of the members of an object, as written. -/
def memberValues? (limit : Nat) : List (Option String × Document) → Option (List (String × Json))
  | [] => some []
  | (name?, d) :: rest => do
    let name ← name?
    let value ← value? limit d
    let more ← memberValues? limit rest
    return (name, value) :: more

end

mutual

/-- The document that a value is written as. -/
def ofJson : Json → Document
  | .null => .null
  | .bool b => .bool b
  | .number n => .number (some n)
  | .string s => .string (some s)
  | .array items => .array (ofItems items)
  | .object members => .object (ofMembers members)

/-- The documents that items are written as. -/
def ofItems : List Json → List Document
  | [] => []
  | item :: rest => ofJson item :: ofItems rest

/-- The members that the members of an object are written as. -/
def ofMembers : List (String × Json) → List (Option String × Document)
  | [] => []
  | (name, value) :: rest => (some name, ofJson value) :: ofMembers rest

end

end Document

end PromptEngine.Json
