/-
  PromptEngine.Proofs.Engine.Handles — the handle of a hook is given out once, and to one hook.

  Hooks are added and removed in any order.  `HookEvent`s say what was done and what was given back;
  a hook is live if it was added and no later call was to remove its handle (`Live`).  One
  invariant ties the events to the engine (`Numbered`): handles were given out in ascending order
  from zero, the next one is the engine's counter, and the hooks are the live ones in the order of
  their handles.  Adding and removing keep it (`Numbered.add`, `Numbered.remove`), so it holds after
  any calls (`numbered_afterHookCalls`).

  Main result: `afterHookCalls_handles`.
-/
import Mathlib.Data.List.Induction
import Mathlib.Data.List.Nodup
import PromptEngine.Engine.Basic

namespace PromptEngine

variable {σ : Type}

/-! ## §1. Calls and events. -/

/-- What can be done to the hooks of an engine. -/
inductive HookCall (σ : Type) where
  | add (hook : Hook σ)
  | remove (id : HookId)

/-- What was done to the hooks of an engine, with what was given back. -/
inductive HookEvent (σ : Type) where
  /-- A hook was added, and its handle given out. -/
  | added (hook : Hook σ) (id : HookId)
  /-- A handle was to be removed, and there was a hook for it or not. -/
  | removed (id : HookId) (found : Bool)

namespace HookEvent

/-- The hook that an event adds, with its handle. -/
def added? : HookEvent σ → Option (HookId × Hook σ)
  | .added hook id => some (id, hook)
  | .removed _ _ => none

/-- All hooks that were added, with their handles, in the order in which they were added. -/
def allAdded (events : List (HookEvent σ)) : List (HookId × Hook σ) :=
  events.filterMap added?

/-- The handles that were given out, in their order. -/
def handles (events : List (HookEvent σ)) : List HookId :=
  (allAdded events).map Prod.fst

/-- A hook was added under a handle, and no later call was to remove it. -/
def Live (events : List (HookEvent σ)) (id : HookId) (hook : Hook σ) : Prop :=
  ∃ front back, events = front ++ .added hook id :: back ∧ ∀ found, .removed id found ∉ back

end HookEvent

namespace Engine

/-- Make a call. -/
def answerHookCall (e : Engine σ) : HookCall σ → HookEvent σ × Engine σ
  | .add hook => (.added hook (e.addHook hook).1, (e.addHook hook).2)
  | .remove id => (.removed id (e.removeHook id).1, (e.removeHook id).2)

/-- Make calls one after the other. -/
def afterHookCalls (e : Engine σ) (calls : List (HookCall σ)) : List (HookEvent σ) × Engine σ :=
  calls.foldl (fun done call =>
    let next := done.2.answerHookCall call
    (done.1 ++ [next.1], next.2)) ([], e)

theorem afterHookCalls_concat (e : Engine σ) (calls : List (HookCall σ)) (call : HookCall σ) :
    e.afterHookCalls (calls ++ [call])
      = ((e.afterHookCalls calls).1 ++ [((e.afterHookCalls calls).2.answerHookCall call).1],
          ((e.afterHookCalls calls).2.answerHookCall call).2) := by
  rw [afterHookCalls, List.foldl_append]
  rfl

end Engine

/-! ## §2. Live hooks. -/

namespace HookEvent

variable {events : List (HookEvent σ)} {id other : HookId} {hook known : Hook σ}

theorem allAdded_concat (events : List (HookEvent σ)) (event : HookEvent σ) :
    allAdded (events ++ [event]) = allAdded events ++ event.added?.toList := by
  unfold allAdded
  rw [List.filterMap_append]
  cases event <;> rfl

theorem handles_concat (events : List (HookEvent σ)) (event : HookEvent σ) :
    handles (events ++ [event]) = handles events ++ event.added?.toList.map Prod.fst := by
  rw [handles, allAdded_concat, List.map_append]
  rfl

/-- **One more event.**  The hook that it adds is live, and so are those that were, unless it is
about their handle. -/
theorem live_concat {event : HookEvent σ} :
    Live (events ++ [event]) id hook ↔
      event = .added hook id ∨ (Live events id hook ∧ ∀ found, event ≠ .removed id found) := by
  constructor
  · rintro ⟨front, back, hevents, hback⟩
    -- The last event added the hook, or the hook was live before it.
    obtain rfl | ⟨more, last, rfl⟩ := List.eq_nil_or_concat back
    · obtain ⟨-, hlast⟩ := List.append_inj' hevents rfl
      exact .inl (List.singleton_inj.mp hlast)
    · rw [List.concat_eq_append] at hback hevents
      rw [← List.cons_append, ← List.append_assoc] at hevents
      obtain ⟨hfront, hlast⟩ := List.append_inj' hevents rfl
      obtain rfl := List.singleton_inj.mp hlast
      refine .inr ⟨⟨front, more, hfront, fun found hmem => ?_⟩, fun found heq => ?_⟩
      · exact hback found (List.mem_append_left _ hmem)
      · exact hback found (List.mem_append_right _ (List.mem_singleton.mpr heq.symm))
  · rintro (rfl | ⟨⟨front, back, rfl, hback⟩, hother⟩)
    · exact ⟨events, [], rfl, fun found => List.not_mem_nil⟩
    · refine ⟨front, back ++ [event], by rw [List.append_assoc, List.cons_append], ?_⟩
      intro found hmem
      obtain hmem | hmem := List.mem_append.mp hmem
      · exact hback found hmem
      · exact hother found (List.mem_singleton.mp hmem).symm

theorem live_concat_added :
    Live (events ++ [.added known other]) id hook ↔
      (id = other ∧ hook = known) ∨ Live events id hook := by
  rw [live_concat]
  simp [eq_comm, and_comm]

theorem live_concat_removed {found : Bool} :
    Live (events ++ [.removed other found]) id hook ↔ Live events id hook ∧ id ≠ other := by
  rw [live_concat]
  simp [eq_comm]

end HookEvent

/-! ## §3. One call. -/

namespace Engine

open HookEvent

/-- Removing a handle tells whether there is a hook for it. -/
theorem removeHook_eq_true_iff {e : Engine σ} {id : HookId} :
    (e.removeHook id).1 = true ↔ ∃ hook, (id, hook) ∈ e.hooks := by
  simp [removeHook]

/-- If there is no hook for the handle, nothing changes. -/
theorem removeHook_of_not_mem {e : Engine σ} {id : HookId} (h : ∀ hook, (id, hook) ∉ e.hooks) :
    (e.removeHook id).2 = e := by
  have hall : e.hooks.filter (·.1 != id) = e.hooks := by
    rw [List.filter_eq_self]
    rintro ⟨other, hook⟩ hmem
    rw [bne_iff_ne]
    rintro rfl
    exact h hook hmem
  rw [removeHook, hall]

/-- The hooks of an engine are those that the events left, and each has its own handle. -/
structure Numbered (events : List (HookEvent σ)) (e : Engine σ) : Prop where
  /-- The hooks stand in the order in which they were added. -/
  sublist : e.hooks.Sublist (allAdded events)
  ascending : e.hooks.Pairwise fun first second => first.1.number < second.1.number
  /-- Handles are given out in their order, from zero up to the next one. -/
  handles_eq : handles events = (List.range e.nextHook).map HookId.mk
  mem_hooks_iff : ∀ id hook, (id, hook) ∈ e.hooks ↔ Live events id hook
  below : ∀ entry ∈ e.hooks, entry.1.number < e.nextHook

namespace Numbered

variable {events : List (HookEvent σ)} {e : Engine σ}

theorem new (hhooks : e.hooks = []) (hnext : e.nextHook = 0) : Numbered [] e where
  sublist := by
    rw [hhooks]
    exact List.nil_sublist _
  ascending := by
    rw [hhooks]
    exact .nil
  handles_eq := by
    rw [hnext]
    rfl
  mem_hooks_iff id hook := by
    rw [hhooks]
    simp [Live]
  below := by
    rw [hhooks]
    exact List.forall_mem_nil _

/-- **Adding a hook**: its handle is above all others, and it stands behind them. -/
theorem add (h : Numbered events e) (hook : Hook σ) :
    Numbered (events ++ [.added hook (e.addHook hook).1]) (e.addHook hook).2 where
  sublist := by
    rw [allAdded_concat]
    exact h.sublist.append (List.Sublist.refl _)
  ascending := by
    refine List.pairwise_append.mpr ⟨h.ascending, List.pairwise_singleton _ _, ?_⟩
    intro entry hentry new hnew
    obtain rfl := List.mem_singleton.mp hnew
    exact h.below entry hentry
  handles_eq := by
    rw [handles_concat, h.handles_eq]
    show _ = (List.range (e.nextHook + 1)).map HookId.mk
    rw [List.range_succ, List.map_append]
    rfl
  mem_hooks_iff id known := by
    rw [live_concat_added, ← h.mem_hooks_iff id known]
    show (id, known) ∈ e.hooks ++ [(⟨e.nextHook⟩, hook)] ↔ _
    rw [List.mem_append, List.mem_singleton, Prod.mk.injEq, or_comm]
    rfl
  below := by
    intro entry hentry
    show entry.1.number < e.nextHook + 1
    obtain hentry | hentry := List.mem_append.mp hentry
    · exact Nat.lt_succ_of_lt (h.below entry hentry)
    · obtain rfl := List.mem_singleton.mp hentry
      exact Nat.lt_succ_self _

/-- **Removing a handle**: the other hooks keep their order, and the counter is not set back. -/
theorem remove (h : Numbered events e) (id : HookId) :
    Numbered (events ++ [.removed id (e.removeHook id).1]) (e.removeHook id).2 where
  sublist := by
    rw [allAdded_concat]
    exact List.filter_sublist.trans (h.sublist.trans (List.sublist_append_left _ _))
  ascending := h.ascending.filter _
  handles_eq := by
    rw [handles_concat, h.handles_eq]
    exact List.append_nil _
  mem_hooks_iff other hook := by
    rw [live_concat_removed, ← h.mem_hooks_iff other hook]
    show (other, hook) ∈ e.hooks.filter (·.1 != id) ↔ _
    rw [List.mem_filter, bne_iff_ne]
  below entry hentry := h.below entry (List.mem_of_mem_filter hentry)

/-- A hook that is removed stands at one place among the others, and these stay. -/
theorem removeHook_eq (h : Numbered events e) {id : HookId} {hook : Hook σ}
    (hmem : (id, hook) ∈ e.hooks) :
    ∃ front back, e.hooks = front ++ (id, hook) :: back ∧
      e.removeHook id = (true, { e with hooks := front ++ back }) := by
  obtain ⟨front, back, hhooks⟩ := List.append_of_mem hmem
  have hascending := h.ascending
  rw [hhooks, List.pairwise_append, List.pairwise_cons] at hascending
  obtain ⟨-, ⟨hback, -⟩, hfront⟩ := hascending
  -- No other hook has the number of the handle.
  have hothers : ∀ entry ∈ front ++ back, entry.1 ≠ id := by
    rintro entry hentry rfl
    obtain hentry | hentry := List.mem_append.mp hentry
    · exact Nat.lt_irrefl _ (hfront entry hentry (entry.1, hook) List.mem_cons_self)
    · exact Nat.lt_irrefl _ (hback entry hentry)
  have hleft : e.hooks.filter (·.1 != id) = front ++ back := by
    have hkept : (front ++ back).filter (·.1 != id) = front ++ back :=
      List.filter_eq_self.mpr fun entry hentry => bne_iff_ne.mpr (hothers entry hentry)
    rw [hhooks, List.filter_append, List.filter_cons_of_neg (by simp), ← List.filter_append, hkept]
  have hfound : (e.removeHook id).1 = true := removeHook_eq_true_iff.mpr ⟨hook, hmem⟩
  refine ⟨front, back, hhooks, Prod.ext hfound ?_⟩
  rw [removeHook, hleft]

end Numbered

/-! ## §4. All calls. -/

/-- Each call keeps the invariant. -/
theorem Numbered.answerHookCall {events : List (HookEvent σ)} {e : Engine σ}
    (h : Numbered events e) (call : HookCall σ) :
    Numbered (events ++ [(e.answerHookCall call).1]) (e.answerHookCall call).2 := by
  cases call with
  | add hook => exact h.add hook
  | remove id => exact h.remove id

/-- **The invariant holds after any calls** on an engine without hooks. -/
theorem numbered_afterHookCalls {e : Engine σ} (hhooks : e.hooks = []) (hnext : e.nextHook = 0)
    (calls : List (HookCall σ)) :
    Numbered (e.afterHookCalls calls).1 (e.afterHookCalls calls).2 := by
  induction calls using List.reverseRecOn with
  | nil => exact .new hhooks hnext
  | append_singleton calls call ih =>
      rw [afterHookCalls_concat]
      exact ih.answerHookCall call

/-- Each call gives out one handle at most. -/
theorem nextHook_afterHookCalls_le (e : Engine σ) (calls : List (HookCall σ)) :
    (e.afterHookCalls calls).2.nextHook ≤ e.nextHook + calls.length := by
  induction calls using List.reverseRecOn with
  | nil => exact Nat.le_refl _
  | append_singleton calls call ih =>
      rw [afterHookCalls_concat, List.length_append, List.length_singleton]
      cases call with
      | add hook => exact Nat.succ_le_succ ih
      | remove id => exact Nat.le_succ_of_le ih

/-- **Handles of hooks.**  After fewer calls that add and remove hooks than there are numbers of 64
bits, on an engine that had none, the hooks stand in the order in which they were added, their
handles ascend, and all are below the next one, which is still a number of 64 bits.  No handle has
been given out twice, and the next one is new.  Removing a handle finds a hook exactly if the handle
was given out and no later call was to remove it; then this hook alone goes, and the others keep
their order.  Otherwise nothing changes. -/
theorem afterHookCalls_handles (start : Engine σ) (hhooks : start.hooks = [])
    (hnext : start.nextHook = 0) (calls : List (HookCall σ)) (hcount : calls.length < UInt64.size) :
    ∃ events e, start.afterHookCalls calls = (events, e) ∧
      e.hooks.Sublist (allAdded events) ∧
      e.hooks.Pairwise (fun first second => first.1.number < second.1.number) ∧
      (∀ entry ∈ e.hooks, entry.1.number < e.nextHook) ∧ e.nextHook < UInt64.size ∧
      (handles events).Nodup ∧ (∀ hook, (e.addHook hook).1 ∉ handles events) ∧
      ∀ id,
        ((e.removeHook id).1 = true ↔ ∃ hook, Live events id hook) ∧
        (∀ hook, Live events id hook →
          ∃ front back, e.hooks = front ++ (id, hook) :: back ∧
            e.removeHook id = (true, { e with hooks := front ++ back })) ∧
        ((∀ hook, ¬ Live events id hook) → e.removeHook id = (false, e)) := by
  have hnumbered := numbered_afterHookCalls hhooks hnext calls
  have hbound := nextHook_afterHookCalls_le start calls
  generalize hrun : start.afterHookCalls calls = done at hnumbered hbound
  obtain ⟨events, e⟩ := done
  dsimp only at hnumbered hbound
  refine ⟨events, e, rfl, hnumbered.sublist, hnumbered.ascending, hnumbered.below, by omega, ?_, ?_,
    fun id => ⟨?_, ?_, ?_⟩⟩
  · rw [hnumbered.handles_eq]
    exact List.nodup_range.map fun first second h => HookId.mk.inj h
  · intro hook hmem
    rw [hnumbered.handles_eq] at hmem
    obtain ⟨number, hnumber, heq⟩ := List.mem_map.mp hmem
    have hsame : number = e.nextHook := HookId.mk.inj heq
    exact absurd (List.mem_range.mp hnumber) (by omega)
  · rw [removeHook_eq_true_iff]
    exact exists_congr fun hook => hnumbered.mem_hooks_iff id hook
  · intro hook hlive
    exact hnumbered.removeHook_eq ((hnumbered.mem_hooks_iff id hook).mpr hlive)
  · intro hdead
    have hnone : ∀ hook, (id, hook) ∉ e.hooks := fun hook hmem =>
      hdead hook ((hnumbered.mem_hooks_iff id hook).mp hmem)
    refine Prod.ext ?_ (removeHook_of_not_mem hnone)
    rw [← Bool.not_eq_true, removeHook_eq_true_iff]
    exact not_exists.mpr hnone

/-- A hook that cancels every call. -/
def refusing : Hook Unit :=
  { before := fun _ _ s => ({ action := .cancel }, s) }

/-- Two hooks, of which the first one is removed twice, and a third one. -/
def turnover : List (HookCall Unit) :=
  [.add {}, .add refusing, .remove ⟨0⟩, .remove ⟨0⟩, .add {}]

theorem afterHookCalls_handles_turnover :
    ∃ events e, ({} : Engine Unit).afterHookCalls turnover = (events, e) ∧
      handles events = [⟨0⟩, ⟨1⟩, ⟨2⟩] ∧ (handles events).Nodup ∧
      e.hooks = [(⟨1⟩, refusing), (⟨2⟩, {})] ∧
      e.removeHook ⟨0⟩ = (false, e) ∧
      (∃ front back, e.hooks = front ++ (⟨1⟩, refusing) :: back ∧
        e.removeHook ⟨1⟩ = (true, { e with hooks := front ++ back })) ∧
      (e.addHook refusing).1 ∉ handles events := by
  obtain ⟨events, e, hrun, -, -, -, -, hnodup, hnew, hremove⟩ :=
    afterHookCalls_handles ({} : Engine Unit) rfl rfl turnover (by decide)
  have hturnover : ({} : Engine Unit).afterHookCalls turnover
      = ([.added {} ⟨0⟩, .added refusing ⟨1⟩, .removed ⟨0⟩ true, .removed ⟨0⟩ false,
          .added {} ⟨2⟩], { hooks := [(⟨1⟩, refusing), (⟨2⟩, {})], nextHook := 3 }) := rfl
  obtain ⟨rfl, rfl⟩ := Prod.mk.inj (hrun.symm.trans hturnover)
  refine ⟨_, _, hturnover, rfl, hnodup, rfl, ?_, ?_, hnew refusing⟩
  · -- The first handle is no longer live.
    refine (hremove ⟨0⟩).2.2 fun hook hlive => ?_
    exact absurd ((hremove ⟨0⟩).1.mpr ⟨hook, hlive⟩) (by decide)
  · refine (hremove ⟨1⟩).2.1 refusing ⟨[.added {} ⟨0⟩], _, rfl, fun found => ?_⟩
    cases found <;> simp

end Engine

end PromptEngine
