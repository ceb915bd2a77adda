/-
  PromptEngine.Engine.Basic — the engine: functions, chat services, hooks and their configuration.

  Services are kept in the order in which their ids were first registered; a registration under a
  known id replaces the service in its place.  Hooks run in the order in which they were added,
  and the number of a removed hook is not given out again.
-/
import PromptEngine.Config.Basic
import PromptEngine.Engine.Hook
import PromptEngine.Engine.Registry

namespace PromptEngine

/-- An engine whose functions, hooks and services act on a state `σ`. -/
structure Engine (σ : Type) where
  registry : Registry σ := .empty
  services : Table (Service σ) := .empty
  hooks : List (HookId × Hook σ) := []
  /-- The number of the next hook. -/
  nextHook : Nat := 0
  config : Config := {}

namespace Engine

variable {σ : Type}

instance : Inhabited (Engine σ) := ⟨{}⟩

/-! ## §1. Functions. -/

/-- Register a function. -/
def register (e : Engine σ) (collection : String) (f : Function σ) (replace : Bool := false) :
    Except EngineError Unit × Engine σ :=
  let (outcome, registry) := e.registry.register collection f replace
  (outcome, { e with registry })

/-- Add a collection. -/
def addCollection (e : Engine σ) (c : Collection σ) : Except EngineError (Engine σ) := do
  return { e with registry := ← e.registry.addCollection c }

/-! ## §2. Services. -/

/-- Register a service under its id. -/
def addService (e : Engine σ) (service : Service σ) : Engine σ :=
  { e with services := e.services.insert service.id service }

/-- The service of an id, or the first service. -/
def service? (e : Engine σ) : Option String → Option (Service σ)
  | some id => e.services.get? id
  | none => e.services.values.head?

/-- The service of an id, or the first service; it has to be there. -/
def service (e : Engine σ) (id : Option String) : Except EngineError (Service σ) :=
  match e.service? id with
  | some service => .ok service
  | none => .error (.serviceNotFound id)

/-- The service that settings stored under a key are meant for; the key of settings that name no
service means the first one. -/
def serviceFor? (e : Engine σ) (key : String) : Option (Service σ) :=
  e.service? (if key = Settings.defaultKey then none else some key)

/-- The first settings whose service is there, and that service. -/
def firstServed? (e : Engine σ) : List (String × Settings) → Option (Service σ × Settings)
  | [] => none
  | (key, settings) :: rest =>
    match e.serviceFor? key with
    | some service => some (service, settings)
    | none => e.firstServed? rest

/-- The service for a prompt and the settings to ask it with.  Without settings it is the first
service. -/
def selectService (e : Engine σ) (settings : Option (Table Settings)) :
    Except EngineError (Service σ × Settings) :=
  match (settings.getD .empty).entries with
  | [] => return (← e.service none, {})
  | (key, first) :: rest =>
    match e.firstServed? ((key, first) :: rest) with
    | some served => .ok served
    | none => .error (.serviceNotFound (some key))

/-! ## §3. Hooks. -/

/-- Add a hook behind the others; the handle is new. -/
def addHook (e : Engine σ) (hook : Hook σ) : HookId × Engine σ :=
  (⟨e.nextHook⟩,
    { e with hooks := e.hooks ++ [(⟨e.nextHook⟩, hook)], nextHook := e.nextHook + 1 })

/-- Remove a hook; tells whether it was there. -/
def removeHook (e : Engine σ) (id : HookId) : Bool × Engine σ :=
  (e.hooks.any (·.1 == id), { e with hooks := e.hooks.filter (·.1 != id) })

end Engine

end PromptEngine
