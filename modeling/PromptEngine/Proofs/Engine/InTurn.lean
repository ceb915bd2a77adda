/-
  PromptEngine.Proofs.Engine.InTurn — things done one after the other, and the calls they make.

  The blocks of a template are rendered in turn, and the tool calls of a reply are answered in
  turn: each begins in the state that the one before it left, and their events stand one behind the
  other (`Exec.InTurn`).  If each of them makes at most one call, the trace of all is a row of
  invocations, one for each call that there is to make and no other (`Exec.InTurn.calls`).  What
  asks for calls of registered functions comes to an end if these do (`Asks.returns`).
-/
import Mathlib.Data.List.Forall2
import PromptEngine.Proofs.Engine.Asking

namespace PromptEngine

variable {σ α β : Type}

/-! ## §1. In turn. -/

namespace Exec

/-- Things are done one after the other, each from the state that the one before it left. -/
inductive InTurn (run : α → Exec σ β) : List α → σ → List β → σ → List Event → Prop where
  | nil {s : σ} : InTurn run [] s [] s []
  | cons {a : α} {rest : List α} {b : β} {values : List β} {s s₁ s' : σ}
      {first more : List Event} :
      run a s = some (b, s₁, first) → InTurn run rest s₁ values s' more →
      InTurn run (a :: rest) s (b :: values) s' (first ++ more)

theorem InTurn.append {run : α → Exec σ β} {front back : List α} {values others : List β}
    {s s₁ s' : σ} {first more : List Event} (hfront : InTurn run front s values s₁ first)
    (hback : InTurn run back s₁ others s' more) :
    InTurn run (front ++ back) s (values ++ others) s' (first ++ more) := by
  induction hfront with
  | nil => exact hback
  | cons hrun _ ih =>
      rw [List.append_assoc]
      exact .cons hrun (ih hback)

/-- Each of the things was done, from some state, and gave one of the values. -/
theorem InTurn.ran {run : α → Exec σ β} {things : List α} {values : List β} {s s' : σ}
    {events : List Event} (h : InTurn run things s values s' events) :
    ∀ a ∈ things, ∃ b ∈ values, ∃ s₁ s₂ own, run a s₁ = some (b, s₂, own) := by
  induction h with
  | nil => exact List.forall_mem_nil _
  | cons hrun _ ih =>
      refine List.forall_mem_cons.mpr ⟨⟨_, List.mem_cons_self, _, _, _, hrun⟩, fun a ha => ?_⟩
      obtain ⟨b, hb, hown⟩ := ih a ha
      exact ⟨b, List.mem_cons_of_mem _ hb, hown⟩

end Exec

/-! ## §2. Calls in a trace. -/

/-- An event is a call of a function with the given arguments, whatever happens inside it. -/
def Event.Calls (event : Event) (call : Function σ × Arguments) : Prop :=
  ∃ inner, event = .run call.1.descriptor call.2 inner

/-- An invocation is one event. -/
theorem Engine.calls_caller {e : Engine σ} {depth : Nat} {f : Function σ} {arguments : Arguments}
    {outcome : Except EngineError Outcome} {s s' : σ} {events : List Event}
    (h : e.caller depth f arguments s = some (outcome, s', events)) :
    List.Forall₂ Event.Calls events [(f, arguments)] := by
  cases depth with
  | zero => contradiction
  | succ depth =>
      obtain ⟨inner, -, rfl⟩ := Exec.inside_eq_some_iff.mp h
      exact .cons ⟨inner, rfl⟩ .nil

/-- **The calls of all** are those of each, in their order. -/
theorem Exec.InTurn.calls {run : α → Exec σ β} {call? : α → Option (Function σ × Arguments)}
    (hrun : ∀ a s b s' events, run a s = some (b, s', events) →
      List.Forall₂ Event.Calls events (call? a).toList)
    {things : List α} {values : List β} {s s' : σ} {events : List Event}
    (h : InTurn run things s values s' events) :
    List.Forall₂ Event.Calls events (things.filterMap call?) := by
  induction h with
  | nil => exact .nil
  | @cons a rest _ _ _ _ _ _ _ hfirst _ ih =>
      have hcalls : (a :: rest).filterMap call? = (call? a).toList ++ rest.filterMap call? := by
        cases hcall : call? a <;> simp [hcall]
      rw [hcalls]
      exact List.rel_append (hrun a _ _ _ _ hfirst) ih

/-! ## §3. Ends. -/

/-- **What asks for calls comes to an end** if the calls do. -/
theorem Asks.returns {P : Function σ → Prop} {y : Caller σ Outcome → Option β} (hy : Asks P y)
    {invoke : Caller σ Outcome} (h : ∀ f, P f → ∀ arguments s, (invoke f arguments s).isSome) :
    (y invoke).isSome := by
  induction hy with
  | value b => rfl
  | call c hc _ ih =>
      obtain ⟨answer, hanswer⟩ :=
        Option.isSome_iff_exists.mp (h c.function hc c.arguments c.state)
      show ((invoke c.function c.arguments c.state).bind _).isSome = true
      rw [hanswer]
      exact ih answer

end PromptEngine
