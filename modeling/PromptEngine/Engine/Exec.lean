/-
  PromptEngine.Engine.Exec — computations that act on a state and leave a trace.

  Functions, hooks and services are given by the user and may depend on a state `σ` that they
  change.  A computation passes that state through, records what happened as a list of events, and
  has no outcome at all if calls are nested too deeply.  Events of a call stand inside the event
  of that call, so that a trace is a forest.
-/
import PromptEngine.Chat.Fragment
import PromptEngine.Engine.Hook

namespace PromptEngine

/-! ## §1. Traces. -/

/-- Something that happened. -/
inductive Event where
  /-- A function was invoked, hooks included. -/
  | run (function : Descriptor) (arguments : Arguments) (inner : List Event)
  /-- A hook was asked before a call. -/
  | before (hook : HookId) (function : Descriptor) (found : Pending) (answer : PreAnswer)
  /-- The body of a function was carried out. -/
  | body (function : Descriptor) (arguments : Arguments) (inner : List Event)
  /-- A native body was given its arguments, defaults included. -/
  | call (function : Descriptor) (arguments : Arguments)
  /-- A hook was asked after a call. -/
  | after (hook : HookId) (function : Descriptor) (found : Finished) (answer : PostAnswer)
  /-- A chat service was asked for a reply. -/
  | request (service : String) (history : History) (settings : Settings)
      (tools : List Descriptor)
  /-- A fragment of a streamed reply arrived. -/
  | fragment (fragment : Fragment)

/-! ## §2. Computations. -/

/-- A computation: from a state to a value, the next state and the events in between, or to
nothing if it nests calls too deeply. -/
def Exec (σ α : Type) : Type :=
  σ → Option (α × σ × List Event)

namespace Exec

variable {σ α β γ : Type}

/-- Give a value and do nothing. -/
protected def pure (a : α) : Exec σ α := fun s => some (a, s, [])

/-- One computation after the other. -/
protected def bind (x : Exec σ α) (f : α → Exec σ β) : Exec σ β := fun s =>
  match x s with
  | none => none
  | some (a, s, events) =>
    match f a s with
    | none => none
    | some (b, s, more) => some (b, s, events ++ more)

instance : Monad (Exec σ) where
  pure := Exec.pure
  bind := Exec.bind

theorem pure_apply (a : α) (s : σ) : (pure a : Exec σ α) s = some (a, s, []) := rfl

theorem bind_apply (x : Exec σ α) (f : α → Exec σ β) (s : σ) :
    (x >>= f) s =
      match x s with
      | none => none
      | some (a, s, events) =>
        match f a s with
        | none => none
        | some (b, s, more) => some (b, s, events ++ more) := rfl

instance : LawfulMonad (Exec σ) := LawfulMonad.mk' (Exec σ)
  (fun x => by
    funext s
    change (x >>= pure) s = x s
    rw [bind_apply]
    cases x s with
    | none => rfl
    | some r => simp [pure_apply])
  (fun a f => by
    funext s
    rw [bind_apply, pure_apply]
    cases h : f a s with
    | none => simp [h]
    | some r => simp [h])
  (fun x f g => by
    funext s
    simp only [bind_apply]
    cases x s with
    | none => rfl
    | some r =>
      obtain ⟨a, s, events⟩ := r
      cases hf : f a s with
      | none => simp [hf]
      | some r =>
        obtain ⟨b, s, more⟩ := r
        cases hg : g b s with
        | none => simp [hf, hg]
        | some r => simp [hf, hg, List.append_assoc])

/-- Act on the state. -/
def act (f : σ → α × σ) : Exec σ α := fun s =>
  some ((f s).1, (f s).2, [])

/-- Record an event. -/
def emit (event : Event) : Exec σ Unit := fun s =>
  some ((), s, [event])

/-- Record the events of a computation inside one event. -/
def inside (wrap : List Event → Event) (x : Exec σ α) : Exec σ α := fun s =>
  match x s with
  | none => none
  | some (a, s, events) => some (a, s, [wrap events])

/-- Calls are nested too deeply. -/
def exhausted : Exec σ α := fun _ => none

/-- Go on with the value of a computation, unless it failed. -/
def orFail {ε : Type} (x : Exec σ (Except ε α)) (f : α → Exec σ (Except ε β)) :
    Exec σ (Except ε β) :=
  x >>= fun
    | .ok a => f a
    | .error e => pure (.error e)

end Exec

end PromptEngine
