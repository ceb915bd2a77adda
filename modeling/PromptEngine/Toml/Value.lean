/-
  PromptEngine.Toml.Value — TOML values, and tables that grow statement by statement.

  A table remembers how it came to be, because that decides who may still add to it:

      implied — a header below it named it; its own header may still come
      dotted  — a dotted key named it; only dotted keys of the same table add to it
      headed  — its own header stood in the text; headers below it may add tables to it
      closed  — it was written in braces; nothing adds to it
-/

namespace PromptEngine.Toml

/-- How a table came to be. -/
inductive Origin where
  | implied
  | dotted
  | headed
  | closed
  deriving DecidableEq, Repr

/-- A TOML value.  Dates and times keep their written form. -/
inductive Value where
  | string (text : String)
  | integer (n : Int)
  | real (x : Float)
  | bool (b : Bool)
  | moment (text : String)
  | array (items : List Value)
  | table (origin : Origin) (members : List (String × Value))
  /-- The tables of one repeated header, in order. -/
  | tables (items : List (List (String × Value)))
  deriving Inhabited

/-- The members of a table, each name once. -/
abbrev Members := List (String × Value)

/-- A key: the names of the tables that it goes through, and its last name. -/
structure Key where
  through : List String
  name : String
  deriving DecidableEq, Repr

/-- A statement of a document. -/
inductive Statement where
  /-- `[key]` -/
  | header (key : Key)
  /-- `[[key]]` -/
  | repeated (key : Key)
  /-- `key = value` -/
  | pair (key : Key) (value : Value)

namespace Members

/-- Set a member; a new one goes to the end. -/
def put (name : String) (value : Value) : Members → Members
  | [] => [(name, value)]
  | (other, v) :: rest =>
    if other == name then (name, value) :: rest else (other, v) :: put name value rest

/-! ## §1. Changing a table below. -/

/-- How a path that is followed treats the tables on it. -/
inductive Route where
  /-- The path of a header: it goes through every table that is not closed. -/
  | header
  /-- The path of a dotted key: it goes only through tables that have no header of their own. -/
  | key
  deriving DecidableEq, Repr

/-- The origin of the tables that a path creates. -/
def Route.origin : Route → Origin
  | .header => .implied
  | .key => .dotted

/-- Whether a path may go through a table. -/
def Route.passes : Route → Origin → Bool
  | _, .closed => false
  | .key, .headed => false
  | _, _ => true

/-- Change the table at the end of a path that starts in a table with the given origin.  Tables
that do not exist are created; a repeated header stands for its last table. -/
def update? (route : Route) (change : Origin → Members → Option Members) :
    List String → Origin → Members → Option Members
  | [], origin, members => change origin members
  | name :: path, _, members =>
    match members.lookup name with
    | none => do
      let inner ← update? route change path route.origin []
      return put name (.table route.origin inner) members
    | some (.table origin inner) =>
      if route.passes origin then do
        let inner ← update? route change path origin inner
        return put name (.table origin inner) members
      else none
    | some (.tables items) => do
      let last ← items.getLast?
      let last ← update? route change path .headed last
      return put name (.tables (items.dropLast ++ [last])) members
    | some _ => none

/-- Add a pair.  The name must be new, and a dotted key must end in a table that dotted keys
made. -/
def addPair? (key : Key) (value : Value) (members : Members) : Option Members :=
  update? .key
    (fun origin inner =>
      if !key.through.isEmpty && origin != .dotted then none
      else if (inner.lookup key.name).isSome then none
      else some (put key.name value inner))
    key.through .headed members

/-- Begin the table of a header. -/
def addHeader? (key : Key) (members : Members) : Option Members :=
  update? .header
    (fun _ inner =>
      match inner.lookup key.name with
      | none => some (put key.name (.table .headed []) inner)
      | some (.table .implied below) => some (put key.name (.table .headed below) inner)
      | some _ => none)
    key.through .headed members

/-- Begin the next table of a repeated header. -/
def addRepeated? (key : Key) (members : Members) : Option Members :=
  update? .header
    (fun _ inner =>
      match inner.lookup key.name with
      | none => some (put key.name (.tables [[]]) inner)
      | some (.tables items) => some (put key.name (.tables (items ++ [[]])) inner)
      | some _ => none)
    key.through .headed members

/-- The members of a table in braces. -/
def ofPairs? (pairs : List (Key × Value)) : Option Members :=
  pairs.foldlM (fun members (key, value) => addPair? key value members) []

/-! ## §2. Documents. -/

/-- A document that is being read: its members, and the path of the last header. -/
structure Draft where
  members : Members := []
  path : List String := []

/-- Add a statement. -/
def Draft.add? (draft : Draft) : Statement → Option Draft
  | .header key => do
    return ⟨← addHeader? key draft.members, key.through ++ [key.name]⟩
  | .repeated key => do
    return ⟨← addRepeated? key draft.members, key.through ++ [key.name]⟩
  | .pair key value => do
    let members ← update? .header (fun _ => addPair? key value) draft.path .headed draft.members
    return { draft with members := members }

/-- The members of a document. -/
def ofStatements? (statements : List Statement) : Option Members :=
  (statements.foldlM Draft.add? {}).map Draft.members

end Members

end PromptEngine.Toml
