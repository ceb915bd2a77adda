/-
  PromptEngine.Json.Basic — JSON values and their equality.

  A value is canonical if the members of each of its objects are sorted by name and no name occurs
  twice; `ofMembers` builds such an object, the last of several members of one name winning.
  Objects whose order matters (a message, say) are written with their members as listed.
-/
import PromptEngine.Json.Number

namespace PromptEngine

/-- A JSON value. -/
inductive Json where
  | null
  | bool (value : Bool)
  | number (value : Json.Number)
  | string (value : String)
  | array (items : List Json)
  | object (members : List (String × Json))
  deriving Inhabited

namespace Json

/-! ## §1. Equality. -/

mutual

/-- Values are equal if they have the same shape and equal leaves. -/
def beq : Json → Json → Bool
  | .null, .null => true
  | .bool a, .bool b => a == b
  | .number a, .number b => a == b
  | .string a, .string b => a == b
  | .array a, .array b => beqItems a b
  | .object a, .object b => beqMembers a b
  | _, _ => false

def beqItems : List Json → List Json → Bool
  | [], [] => true
  | a :: as, b :: bs => beq a b && beqItems as bs
  | _, _ => false

def beqMembers : List (String × Json) → List (String × Json) → Bool
  | [], [] => true
  | (m, a) :: as, (n, b) :: bs => m == n && beq a b && beqMembers as bs
  | _, _ => false

end

instance : BEq Json := ⟨beq⟩

/-! ## §2. Objects. -/

/-- Put a member into a sorted list of members; it replaces a member of the same name. -/
def insertMember (name : String) (value : Json) :
    List (String × Json) → List (String × Json)
  | [] => [(name, value)]
  | (n, v) :: rest =>
    if name < n then (name, value) :: (n, v) :: rest
    else if name = n then (name, value) :: rest
    else (n, v) :: insertMember name value rest

/-- The object with the given members, sorted by name; of equal names the last one counts. -/
def ofMembers (members : List (String × Json)) : Json :=
  .object (members.foldl (fun sorted (name, value) => insertMember name value sorted) [])

mutual

/-- A value with the members of its objects sorted by name. -/
def canonical : Json → Json
  | .array items => .array (canonicalItems items)
  | .object members => ofMembers (canonicalMembers members)
  | value => value

def canonicalItems : List Json → List Json
  | [] => []
  | item :: rest => canonical item :: canonicalItems rest

def canonicalMembers : List (String × Json) → List (String × Json)
  | [] => []
  | (name, value) :: rest => (name, canonical value) :: canonicalMembers rest

end

/-- The member of a name, if the value is an object that has one. -/
def member? (name : String) : Json → Option Json
  | .object members => members.lookup name
  | _ => none

/-- An integer as a value. -/
def ofInt (n : Int) : Json :=
  .number (.integer n)

/-- A count as a value. -/
def ofNat (n : Nat) : Json :=
  ofInt n

/-- An optional text; an absent one is null. -/
def ofString? : Option String → Json
  | some text => .string text
  | none => .null

/-- The members that are present. -/
def present (members : List (String × Option Json)) : List (String × Json) :=
  members.filterMap fun (name, value?) => value?.map (name, ·)

end Json

end PromptEngine
