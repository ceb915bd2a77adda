/-
  PromptEngine.Engine.Registry — named collections of functions.

  A registry keeps its collections, and each collection its functions, in the order in which they
  were first registered.  Templates name a function by `collection.name` or by its name alone,
  chat models by `collection-name` or by its name alone; a name alone means the first collection
  that has it.
-/
import PromptEngine.Engine.Function
import PromptEngine.Text.Identifier

namespace PromptEngine

/-- Names of collections and functions have to be identifiers. -/
def checkName (name : String) : Except EngineError Unit :=
  if isIdentifier name then .ok () else .error (.invalidName name)

/-! ## §1. Collections. -/

/-- A named group of functions. -/
structure Collection (σ : Type) where
  name : String
  description : Option String := none
  functions : Table (Function σ) := .empty

namespace Collection

variable {σ : Type}

/-- A collection without functions. -/
def create (name : String) (description : Option String := none) :
    Except EngineError (Collection σ) := do
  checkName name
  return { name, description }

/-- Add a function.  A function of the same name is replaced if `replace` allows it. -/
def add (c : Collection σ) (f : Function σ) (replace : Bool := false) :
    Except EngineError (Collection σ) := do
  checkName f.name
  if !replace && c.functions.contains f.name then
    throw (.duplicateFunction c.name f.name)
  return { c with functions := c.functions.insert f.name (f.inCollection c.name) }

/-- Add several functions, one after the other. -/
def addAll (c : Collection σ) (functions : List (Function σ)) :
    Except EngineError (Collection σ) :=
  functions.foldlM (fun c f => c.add f) c

end Collection

/-! ## §2. Registries. -/

/-- All collections of an engine, each under its name. -/
structure Registry (σ : Type) where
  collections : Table (Collection σ) := .empty

namespace Registry

variable {σ : Type}

/-- The registry without collections. -/
def empty : Registry σ := {}

instance : Inhabited (Registry σ) := ⟨empty⟩

/-- Store a collection under its name. -/
def put (r : Registry σ) (c : Collection σ) : Registry σ :=
  ⟨r.collections.insert c.name c⟩

/-- The collection that functions are registered in: the one of that name, or a new one. -/
def entry (r : Registry σ) (collection : String) : Except EngineError (Collection σ) :=
  match r.collections.get? collection with
  | some c => .ok c
  | none => Collection.create collection

/-- Register a function; the collection is created if there is none.  Given back are the outcome
and the registry afterwards, which has a new collection also if the function was refused. -/
def register (r : Registry σ) (collection : String) (f : Function σ) (replace : Bool := false) :
    Except EngineError Unit × Registry σ :=
  match r.entry collection with
  | .error e => (.error e, r)
  | .ok c =>
    match c.add f replace with
    | .error e => (.error e, ⟨r.collections.insert collection c⟩)
    | .ok c => (.ok (), ⟨r.collections.insert collection c⟩)

/-- The first of a collection's functions whose name another collection has as well. -/
def clash? (known : Collection σ) (c : Collection σ) : Option String :=
  c.functions.names.find? known.functions.contains

/-- Add a collection.  Its functions are added to a collection of the same name, unless one of
their names is taken there. -/
def addCollection (r : Registry σ) (c : Collection σ) : Except EngineError (Registry σ) :=
  match r.collections.get? c.name with
  | none => .ok (r.put c)
  | some known =>
    match clash? known c with
    | some name => .error (.duplicateFunction c.name name)
    | none =>
      .ok (r.put { known with functions := known.functions.insertAll c.functions.entries })

/-- Look up a function in a collection. -/
def get (r : Registry σ) (collection name : String) : Except EngineError (Function σ) :=
  match r.collections.get? collection with
  | none => .error (.collectionNotFound collection)
  | some c =>
    match c.functions.get? name with
    | none => .error (.functionNotFound collection name)
    | some f => .ok f

/-- Look up a function in the first collection that has it. -/
def find (r : Registry σ) (name : String) : Except EngineError (Function σ) :=
  match r.collections.values.findSome? fun c => c.functions.get? name with
  | none => .error (.unknownFunction name)
  | some f => .ok f

/-- Look up the function that a template refers to. -/
def resolve (r : Registry σ) (reference : FunctionRef) : Except EngineError (Function σ) :=
  match reference.collection with
  | some collection => r.get collection reference.name
  | none => r.find reference.name

/-- The character between collection and function in the name of a tool. -/
def toolSeparator : Char := '-'

/-- Look up the function that a chat model asks for. -/
def resolveTool (r : Registry σ) (tool : String) : Except EngineError (Function σ) :=
  let before := tool.toList.takeWhile (· != toolSeparator)
  match tool.toList.dropWhile (· != toolSeparator) with
  | [] => r.find tool
  | _ :: after => r.get (String.ofList before) (String.ofList after)

/-- All functions, in the order of their registration. -/
def functions (r : Registry σ) : List (Function σ) :=
  r.collections.values.flatMap fun c => c.functions.values

/-- The descriptions of all functions. -/
def descriptors (r : Registry σ) : List Descriptor :=
  r.functions.map (·.descriptor)

/-- All functions as tools. -/
def toolSchemas (r : Registry σ) : List Json :=
  r.descriptors.map (·.toolSchema)

/-- Whether there is no function. -/
def isEmpty (r : Registry σ) : Bool :=
  r.collections.values.all (·.functions.isEmpty)

end Registry

end PromptEngine
