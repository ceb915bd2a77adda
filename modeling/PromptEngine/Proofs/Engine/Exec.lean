/-
  PromptEngine.Proofs.Engine.Exec — computations that came to an end, taken apart.

  A computation ends with a value, a state and the events in between, or it does not end.  For
  each way of building computations there is a lemma that goes on from a part whose end is known
  (§1) and one that says how an end of the whole came about (§2); the proofs about the engine use
  these lemmas and never unfold the monad.  §3 collects what a trace says about chat services at
  its top level, where the events of nested calls do not count.
-/
import PromptEngine.Engine.Exec
import PromptEngine.Engine.Function

namespace PromptEngine

namespace Exec

variable {σ α β ε : Type} {s s' : σ} {events : List Event}

/-! ## §1. Going on from a part whose end is known. -/

/-- An end with events put before its own. -/
def behind (first : List Event) (ending : Option (α × σ × List Event)) :
    Option (α × σ × List Event) :=
  ending.map fun r => (r.1, r.2.1, first ++ r.2.2)

@[simp]
theorem behind_some {first : List Event} {a : α} :
    behind first (some (a, s, events)) = some (a, s, first ++ events) := rfl

theorem behind_nil (ending : Option (α × σ × List Event)) : behind [] ending = ending := by
  cases ending <;> rfl

theorem behind_behind (first second : List Event) (ending : Option (α × σ × List Event)) :
    behind first (behind second ending) = behind (first ++ second) ending := by
  cases ending with
  | none => rfl
  | some r => simp [behind]

theorem bind_of_none {x : Exec σ α} {f : α → Exec σ β} (h : x s = none) :
    (x >>= f) s = none := by
  rw [bind_apply, h]

theorem bind_of_some {x : Exec σ α} {f : α → Exec σ β} {a : α} (h : x s = some (a, s', events)) :
    (x >>= f) s = behind events (f a s') := by
  rw [bind_apply, h]
  dsimp only
  cases f a s' <;> rfl

/-- An event that is recorded first stands first in the trace. -/
theorem emit_bind {event : Event} {f : Unit → Exec σ β} :
    (emit event >>= f) s = behind [event] (f () s) :=
  bind_of_some rfl

/-- An action records nothing. -/
theorem act_bind {g : σ → α × σ} {f : α → Exec σ β} :
    (act g >>= f) s = f (g s).1 (g s).2 := by
  have hact : act g s = some ((g s).1, (g s).2, []) := rfl
  rw [bind_of_some hact, behind_nil]

theorem inside_of_some {wrap : List Event → Event} {x : Exec σ α} {a : α}
    (h : x s = some (a, s', events)) : inside wrap x s = some (a, s', [wrap events]) := by
  unfold inside
  rw [h]

theorem inside_of_none {wrap : List Event → Event} {x : Exec σ α} (h : x s = none) :
    inside wrap x s = none := by
  unfold inside
  rw [h]

/-! ## §2. How a computation ended. -/

/-- Two ends are the same if their values, states and events are. -/
theorem end_eq_iff {a b : α} {first : List Event} :
    some (a, s, first) = some (b, s', events) ↔ b = a ∧ s' = s ∧ events = first := by
  rw [Option.some.injEq, Prod.mk.injEq, Prod.mk.injEq]
  exact ⟨fun ⟨ha, hs, he⟩ => ⟨ha.symm, hs.symm, he.symm⟩,
    fun ⟨ha, hs, he⟩ => ⟨ha.symm, hs.symm, he.symm⟩⟩

theorem pure_eq_some_iff {a b : α} :
    (pure a : Exec σ α) s = some (b, s', events) ↔ b = a ∧ s' = s ∧ events = [] := by
  rw [pure_apply]
  exact end_eq_iff

theorem behind_eq_some_iff {first : List Event} {ending : Option (α × σ × List Event)} {a : α} :
    behind first ending = some (a, s', events) ↔
      ∃ rest, ending = some (a, s', rest) ∧ events = first ++ rest := by
  cases ending with
  | none => exact ⟨fun h => by contradiction, fun ⟨_, h, _⟩ => by contradiction⟩
  | some r =>
      obtain ⟨a₁, s₁, rest⟩ := r
      rw [behind_some, end_eq_iff]
      constructor
      · rintro ⟨rfl, rfl, rfl⟩
        exact ⟨rest, rfl, rfl⟩
      · rintro ⟨rest₁, hr, rfl⟩
        obtain ⟨rfl, rfl, rfl⟩ := end_eq_iff.mp hr
        exact ⟨rfl, rfl, rfl⟩

theorem bind_eq_some_iff {x : Exec σ α} {f : α → Exec σ β} {b : β} :
    (x >>= f) s = some (b, s', events) ↔
      ∃ a s₁ first rest, x s = some (a, s₁, first) ∧ f a s₁ = some (b, s', rest) ∧
        events = first ++ rest := by
  constructor
  · intro h
    cases hx : x s with
    | none =>
        rw [bind_of_none hx] at h
        contradiction
    | some r =>
        obtain ⟨a, s₁, first⟩ := r
        rw [bind_of_some hx] at h
        obtain ⟨rest, hf, hevents⟩ := behind_eq_some_iff.mp h
        exact ⟨a, s₁, first, rest, rfl, hf, hevents⟩
  · rintro ⟨a, s₁, first, rest, hx, hf, rfl⟩
    rw [bind_of_some hx, hf]
    rfl

theorem emit_bind_eq_some_iff {event : Event} {f : Unit → Exec σ β} {b : β} :
    (emit event >>= f) s = some (b, s', events) ↔
      ∃ rest, f () s = some (b, s', rest) ∧ events = event :: rest := by
  rw [emit_bind]
  exact behind_eq_some_iff

theorem inside_eq_some_iff {wrap : List Event → Event} {x : Exec σ α} {a : α} :
    inside wrap x s = some (a, s', events) ↔
      ∃ inner, x s = some (a, s', inner) ∧ events = [wrap inner] := by
  constructor
  · intro h
    cases hx : x s with
    | none =>
        rw [inside_of_none hx] at h
        contradiction
    | some r =>
        obtain ⟨a₁, s₁, inner⟩ := r
        rw [inside_of_some hx] at h
        obtain ⟨rfl, rfl, rfl⟩ := end_eq_iff.mp h
        exact ⟨inner, rfl, rfl⟩
  · rintro ⟨inner, hx, rfl⟩
    exact inside_of_some hx

/-- A computation that goes on unless the first part failed. -/
theorem orFail_eq_some_iff {x : Exec σ (Except ε α)} {f : α → Exec σ (Except ε β)}
    {outcome : Except ε β} :
    orFail x f s = some (outcome, s', events) ↔
      (∃ error, x s = some (.error error, s', events) ∧ outcome = .error error) ∨
      (∃ a s₁ first rest, x s = some (.ok a, s₁, first) ∧ f a s₁ = some (outcome, s', rest) ∧
        events = first ++ rest) := by
  unfold orFail
  rw [bind_eq_some_iff]
  constructor
  · rintro ⟨result, s₁, first, rest, hx, hf, rfl⟩
    cases result with
    | error error =>
        obtain ⟨rfl, rfl, rfl⟩ := pure_eq_some_iff.mp hf
        exact Or.inl ⟨error, by rw [hx, List.append_nil], rfl⟩
    | ok a => exact Or.inr ⟨a, s₁, first, rest, hx, hf, rfl⟩
  · rintro (⟨error, hx, rfl⟩ | ⟨a, s₁, first, rest, hx, hf, rfl⟩)
    · exact ⟨.error error, s', events, [], hx, rfl, (List.append_nil events).symm⟩
    · exact ⟨.ok a, s₁, first, rest, hx, hf, rfl⟩

end Exec

/-! ## §3. The requests of a trace. -/

/-- The request that an event reports, with the id of the service that was asked. -/
def Event.request? : Event → Option (String × ChatRequest)
  | .request service history settings tools => some (service, { history, settings, tools })
  | _ => none

/-- The requests at the top level of a trace, in their order. -/
def requests (events : List Event) : List (String × ChatRequest) :=
  events.filterMap Event.request?

@[simp]
theorem requests_nil : requests [] = [] := rfl

@[simp]
theorem requests_append (first rest : List Event) :
    requests (first ++ rest) = requests first ++ requests rest :=
  List.filterMap_append

@[simp]
theorem requests_fragment (f : Fragment) (rest : List Event) :
    requests (.fragment f :: rest) = requests rest := rfl

@[simp]
theorem requests_request (service : String) (history : History) (settings : Settings)
    (tools : List Descriptor) (rest : List Event) :
    requests (.request service history settings tools :: rest)
      = (service, { history, settings, tools }) :: requests rest := rfl

end PromptEngine
