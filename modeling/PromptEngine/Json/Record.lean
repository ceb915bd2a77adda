/-
  PromptEngine.Json.Record — records read from JSON documents.

  A record has declared fields.  It is written as an object, whose other members are passed over
  and which gives no field twice, or as an array of the fields in their declared order, from which
  fields may be missing at the end.
-/
import PromptEngine.Json.Document
import PromptEngine.Table

namespace PromptEngine.Json.Document

/-! ## §1. Fields. -/

/-- The documents that are given for the fields of a record. -/
abbrev Fields := List (String × Document)

/-- The declared fields among the members of an object. -/
def memberFields? (declared : List String) : List (Option String × Document) → Option Fields
  | [] => some []
  | (none, _) :: _ => none
  | (some name, d) :: rest => do
    let fields ← memberFields? declared rest
    if name ∈ declared then
      if fields.any (·.1 == name) then none else some ((name, d) :: fields)
    else some fields

/-- The fields of a record. -/
def fields? (declared : List String) : Document → Option Fields
  | .object members => memberFields? declared members
  | .array items => if declared.length < items.length then none else some (declared.zip items)
  | _ => none

/-- A field that has to be there. -/
def required? {α : Type} (read : Document → Option α) (fields : Fields) (name : String) :
    Option α :=
  fields.lookup name >>= read

/-- A field that may be absent or null. -/
def optional? {α : Type} (read : Document → Option α) (fields : Fields) (name : String) :
    Option (Option α) :=
  match fields.lookup name with
  | none | some .null => some none
  | some d => (read d).map some

/-- A field that stands for `absent` if it is not there. -/
def default? {α : Type} (absent : α) (read : Document → Option α) (fields : Fields)
    (name : String) : Option α :=
  match fields.lookup name with
  | none => some absent
  | some d => read d

/-! ## §2. Leaves. -/

/-- A text. -/
def text? : Document → Option String
  | .string s => s
  | _ => none

/-- An index; it has to be written as an integer. -/
def index? : Document → Option Nat
  | .number (some (.integer n)) => if 0 ≤ n then some n.toNat else none
  | _ => none

/-- One of several words.  A word may also be the name of the one member of an object, which then
is null. -/
def word? {α : Type} (words : List (String × α)) : Document → Option α
  | .string (some word) | .object [(some word, .null)] => words.lookup word
  | _ => none

/-- A list. -/
def list? {α : Type} (read : Document → Option α) : Document → Option (List α)
  | .array items => items.mapM read
  | _ => none

/-- An object as a table of values, each of which may hold `limit` more levels. -/
def table? (limit : Nat) : Document → Option (Table Json)
  | .object members => (memberValues? limit members).map Table.ofList
  | _ => none

end PromptEngine.Json.Document
