/-
  PromptEngine.Proofs.Chat.Regrouping — when fragments may be joined in another grouping.

  Three fragments of a choice can be joined from the left, or the second and the third can be
  joined first.  Role, content and finish reason come out the same in any case.  Parts of tool
  calls do too, unless the fragment in the middle has two parts for a tool call that the last
  fragment goes on with: joined first, the last fragment is merged with the first of the two, so
  that it comes before the second (`append_regrouping_fails`).

  Main results:
    * `mergeAll_assoc` — merging parts of tool calls is associative up to that case,
    * `append_regrouped` — what the two groupings of three fragments have in common.
-/
import PromptEngine.Proofs.Chat.Aggregation

namespace PromptEngine

theorem joinText_assoc (x y z : Option String) :
    joinText (joinText x y) z = joinText x (joinText y z) := by
  cases x <;> cases y <;> cases z <;> simp [joinText, String.append_assoc]

/-! ## §1. Parts of tool calls. -/

namespace ToolCallDelta

/-- Add parts to a list of tool calls, one after the other. -/
def mergeAll (calls parts : List ToolCallDelta) : List ToolCallDelta :=
  parts.foldl (fun calls part => part.mergeInto calls) calls

theorem mergeAll_cons (calls : List ToolCallDelta) (part : ToolCallDelta)
    (parts : List ToolCallDelta) :
    mergeAll calls (part :: parts) = mergeAll (part.mergeInto calls) parts := rfl

/-- The indices of parts, in their order. -/
def indices (parts : List ToolCallDelta) : List Nat :=
  parts.map (·.index)

theorem merge_assoc (x y z : ToolCallDelta) : (x.merge y).merge z = x.merge (y.merge z) := by
  simp only [merge, Option.or_assoc, joinText_assoc]

/-- A part makes its index known, at the end if it is new. -/
theorem indices_mergeInto (part : ToolCallDelta) (calls : List ToolCallDelta) :
    indices (part.mergeInto calls)
      = if part.index ∈ indices calls then indices calls
        else indices calls ++ [part.index] := by
  induction calls with
  | nil => rfl
  | cons call calls ih =>
      simp only [indices] at ih ⊢
      unfold mergeInto
      by_cases h : call.index = part.index
      · simp [h, merge]
      · have h' : ¬ part.index = call.index := fun heq => h heq.symm
        by_cases hmem : part.index ∈ calls.map (·.index) <;>
          simp only [h, h', hmem, ih, if_true, if_false, List.map_cons, List.mem_cons, false_or,
            List.cons_append]

/-- Two parts of one tool call may be merged before they are added. -/
theorem mergeInto_mergeInto {x y : ToolCallDelta} (h : x.index = y.index)
    (calls : List ToolCallDelta) :
    y.mergeInto (x.mergeInto calls) = (x.merge y).mergeInto calls := by
  have hindex : (x.merge y).index = x.index := rfl
  induction calls with
  | nil => simp [mergeInto, h]
  | cons call calls ih =>
      by_cases hcall : call.index = x.index
      · have hmerged : (call.merge x).index = y.index := hcall.trans h
        rw [mergeInto, if_pos hcall, mergeInto, if_pos hmerged, mergeInto, hindex, if_pos hcall,
          merge_assoc]
      · have hcall' : ¬ call.index = y.index := fun heq => hcall (heq.trans h.symm)
        rw [mergeInto, if_neg hcall, mergeInto, if_neg hcall', mergeInto, hindex, if_neg hcall, ih]

/-- Parts of different tool calls may be added in either order if one of them is known: then it
does not matter which comes first. -/
theorem mergeInto_comm {x y : ToolCallDelta} (hne : x.index ≠ y.index)
    {calls : List ToolCallDelta} (hknown : y.index ∈ indices calls) :
    y.mergeInto (x.mergeInto calls) = x.mergeInto (y.mergeInto calls) := by
  induction calls with
  | nil => exact absurd hknown List.not_mem_nil
  | cons call calls ih =>
      -- Merging leaves indices as they are, so each of the two finds the same entry either way.
      by_cases hx : call.index = x.index
      · have hy : ¬ call.index = y.index := fun heq => hne (hx.symm.trans heq)
        have hmerged : ¬ (call.merge x).index = y.index := hy
        rw [mergeInto, if_pos hx, mergeInto, if_neg hmerged, mergeInto, if_neg hy, mergeInto,
          if_pos hx]
      · by_cases hy : call.index = y.index
        · have hmerged : ¬ (call.merge y).index = x.index := hx
          rw [mergeInto, if_neg hx, mergeInto, if_pos hy, mergeInto, if_pos hy, mergeInto,
            if_neg hmerged]
        · have hrest : y.index ∈ indices calls := by
            rcases List.mem_cons.mp hknown with heq | hmem
            · exact absurd heq.symm hy
            · exact hmem
          rw [mergeInto, if_neg hx, mergeInto, if_neg hy, mergeInto, if_neg hy, mergeInto,
            if_neg hx, ih hrest]

/-- A part of a known tool call may be added before parts of other tool calls. -/
theorem mergeInto_mergeAll {part : ToolCallDelta} {parts : List ToolCallDelta}
    (hother : part.index ∉ indices parts) :
    ∀ {calls : List ToolCallDelta}, part.index ∈ indices calls →
      part.mergeInto (mergeAll calls parts) = mergeAll (part.mergeInto calls) parts := by
  induction parts with
  | nil => intro calls _; rfl
  | cons first parts ih =>
      intro calls hknown
      obtain ⟨hfirst, hrest⟩ : part.index ≠ first.index ∧ part.index ∉ indices parts := by
        simpa [indices] using hother
      have hstill : part.index ∈ indices (first.mergeInto calls) := by
        rw [indices_mergeInto]
        split
        · exact hknown
        · exact List.mem_append_left _ hknown
      rw [mergeAll_cons, mergeAll_cons, ih hrest hstill, mergeInto_comm hfirst.symm hknown]

/-- **One part.**  A part that finds at most one part of its tool call among others may be added to
these, or behind them. -/
theorem mergeInto_mergeAll_of_count {part : ToolCallDelta} {parts : List ToolCallDelta} :
    ∀ {calls : List ToolCallDelta}, (indices parts).count part.index ≤ 1 →
      part.mergeInto (mergeAll calls parts) = mergeAll calls (part.mergeInto parts) := by
  induction parts with
  | nil => intro calls _; rfl
  | cons first parts ih =>
      intro calls hcount
      by_cases h : first.index = part.index
      · -- This is the one part of the tool call, so the others are of other calls.
        have hother : part.index ∉ indices parts := by
          rw [indices, List.map_cons, h, List.count_cons_self] at hcount
          exact List.count_eq_zero.mp (by simpa [indices] using hcount)
        have hknown : part.index ∈ indices (first.mergeInto calls) := by
          rw [indices_mergeInto, h]
          split
          · next hmem => exact hmem
          · exact List.mem_append_right _ (List.mem_singleton.mpr rfl)
        have hmerged : part.mergeInto (first :: parts) = first.merge part :: parts := by
          rw [mergeInto, if_pos h]
        rw [hmerged, mergeAll_cons, mergeAll_cons, mergeInto_mergeAll hother hknown,
          mergeInto_mergeInto h]
      · have hskipped : part.mergeInto (first :: parts) = first :: part.mergeInto parts := by
          rw [mergeInto, if_neg h]
        have hrest : (indices parts).count part.index ≤ 1 := by
          rw [indices, List.map_cons, List.count_cons_of_ne h] at hcount
          exact hcount
        rw [hskipped, mergeAll_cons, mergeAll_cons, ih hrest]

/-- **All parts.**  Parts that find at most one part of their tool call among others may be added
to these, or behind them. -/
theorem mergeAll_assoc {parts more : List ToolCallDelta} :
    ∀ {calls : List ToolCallDelta},
      (∀ part ∈ more, (indices parts).count part.index ≤ 1) →
      mergeAll (mergeAll calls parts) more = mergeAll calls (mergeAll parts more) := by
  induction more generalizing parts with
  | nil => intro calls _; rfl
  | cons part more ih =>
      intro calls hcount
      obtain ⟨hpart, hmore⟩ := List.forall_mem_cons.mp hcount
      -- What the first part leaves has at most one part for each of the later ones.
      have hleft : ∀ later ∈ more, (indices (part.mergeInto parts)).count later.index ≤ 1 := by
        intro later hlater
        rw [indices_mergeInto]
        split
        · exact hmore later hlater
        · next hnew =>
          rw [List.count_append]
          by_cases heq : later.index = part.index
          · exact Nat.le_of_eq (by
              rw [heq, List.count_eq_zero.mpr hnew, List.count_singleton_self])
          · have hnone : [part.index].count later.index = 0 :=
              List.count_eq_zero.mpr fun hmem => heq (List.mem_singleton.mp hmem)
            rw [hnone]
            exact hmore later hlater
      rw [mergeAll_cons, mergeAll_cons, mergeInto_mergeAll_of_count hpart, ih hleft]

end ToolCallDelta

/-! ## §2. Fragments. -/

namespace Fragment

/-- No tool call that the later fragment goes on with has two parts in the fragment. -/
def Continues (later f : Fragment) : Prop :=
  ∀ part ∈ later.toolCalls, (ToolCallDelta.indices f.toolCalls).count part.index ≤ 1

instance (later f : Fragment) : Decidable (later.Continues f) :=
  inferInstanceAs (Decidable (∀ _ ∈ _, _))

theorem join_assoc {a b c : Fragment} (h : c.Continues b) :
    (a.join b).join c = a.join (b.join c) := by
  have hcalls : ((a.join b).join c).toolCalls = (a.join (b.join c)).toolCalls :=
    ToolCallDelta.mergeAll_assoc h
  simp only [join, Option.or_assoc, joinText_assoc] at hcalls ⊢
  rw [hcalls]

/-- **Two groupings of three fragments of a choice.**  Both can be joined.  They agree in role,
content and finish reason whatever the fragments are, and they are the same fragment if the last
one goes on with no tool call that has two parts in the middle one. -/
theorem append_regrouped (a b c : Fragment) (hb : b.choice = a.choice)
    (hc : c.choice = a.choice) :
    ∃ ab bc left right : Fragment,
      a.append b = .ok ab ∧ ab.append c = .ok left ∧
      b.append c = .ok bc ∧ a.append bc = .ok right ∧
      left.choice = right.choice ∧ left.role = right.role ∧ left.content = right.content ∧
      left.finishReason = right.finishReason ∧ (c.Continues b → left = right) := by
  refine ⟨a.join b, b.join c, (a.join b).join c, a.join (b.join c), append_of_choice hb,
    append_of_choice hc, append_of_choice (hc.trans hb.symm), append_of_choice hb, rfl,
    ?_, ?_, ?_, join_assoc⟩
  · exact Option.or_assoc
  · exact joinText_assoc a.content b.content c.content
  · exact Option.or_assoc.symm

/-- The head of a tool call: its id, its name and the beginning of its arguments. -/
def opening : Fragment :=
  .toolCall 0 { index := 0, id := some "call_1", name := some "add", arguments := some "[1" }

/-- A part of a new tool call and the next part of the first one. -/
def further : Fragment :=
  { choice := 0
    toolCalls := [{ index := 4, name := some "now" }, { index := 0, arguments := some ",2" }] }

/-- The end of both tool calls, one of them in two parts. -/
def closing : Fragment :=
  { choice := 0
    toolCalls := [{ index := 0, arguments := some ",3" }, { index := 4, id := some "call_2" },
      { index := 0, arguments := some "]" }]
    finishReason := some .toolCalls }

theorem append_regrouped_further :
    further.choice = opening.choice ∧ closing.choice = opening.choice ∧
      closing.Continues further ∧
      ∃ ab bc left right : Fragment,
        opening.append further = .ok ab ∧ ab.append closing = .ok left ∧
        further.append closing = .ok bc ∧ opening.append bc = .ok right ∧ left = right := by
  have hcontinues : closing.Continues further := by decide
  obtain ⟨ab, bc, left, right, hab, hleft, hbc, hright, -, -, -, -, hsame⟩ :=
    append_regrouped opening further closing rfl rfl
  exact ⟨rfl, rfl, hcontinues, ab, bc, left, right, hab, hleft, hbc, hright, hsame hcontinues⟩

/-- The next part of the first tool call and the one after it, in one fragment. -/
def doubled : Fragment :=
  { choice := 0
    toolCalls := [{ index := 0, arguments := some ",2" }, { index := 0, arguments := some ",3" }] }

/-- The end of the first tool call. -/
def bracket : Fragment :=
  .toolCall 0 { index := 0, arguments := some "]" }

/-- Joining is not associative: joined first, the last two fragments put the end of the arguments
before the second part of the middle one. -/
theorem append_regrouping_fails :
    ¬ ∀ a b c : Fragment, b.choice = a.choice → c.choice = a.choice →
      (a.append b >>= fun sum => sum.append c) = (b.append c >>= fun sum => a.append sum) := by
  intro h
  have heq := congrArg (fun sum => sum.toOption.map fun f => f.toolCalls.map (·.arguments))
    (h opening doubled bracket rfl rfl)
  have hleft : (opening.append doubled >>= fun sum => sum.append bracket).toOption.map
      (fun f => f.toolCalls.map (·.arguments)) = some [some "[1,2,3]"] := by decide
  have hright : (doubled.append bracket >>= fun sum => opening.append sum).toOption.map
      (fun f => f.toolCalls.map (·.arguments)) = some [some "[1,2],3"] := by decide
  rw [hleft, hright] at heq
  exact absurd heq (by decide)

end Fragment

end PromptEngine
