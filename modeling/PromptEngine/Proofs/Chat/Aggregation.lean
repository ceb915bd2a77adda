/-
  PromptEngine.Proofs.Chat.Aggregation — what the fragments of a reply add up to.

  `Accumulator.reply` says what a choice's message is, given all fragments of the choice: contents
  are put together in their order of arrival, the first role and the last finish reason count, and
  the parts of each tool call are put together likewise.  The accumulator never has all fragments
  at hand; it adds each one to a sum.  `ToolCallDelta.total` and `Fragment.total` are these sums,
  and one more part or fragment makes the next sum (`mergeInto_totals`, `total_join`).  Main
  result: whatever the fragments and however their choices are interleaved, the accumulator ends
  with one reply for each choice that occurs, in ascending order (`Accumulator.messages_ofList`).
-/
import Mathlib.Data.List.Induction
import Mathlib.Data.List.Nodup
import PromptEngine.Chat.Accumulator

namespace PromptEngine

/-! ## §1. Lists that grow at their end. -/

theorem eraseDups_concat (xs : List Nat) (x : Nat) :
    (xs ++ [x]).eraseDups = if x ∈ xs then xs.eraseDups else xs.eraseDups ++ [x] := by
  rw [List.eraseDups_append]
  by_cases h : x ∈ xs <;> simp [List.removeAll, List.eraseDups_cons, h]

theorem nodup_eraseDups (xs : List Nat) : xs.eraseDups.Nodup := by
  induction xs using List.reverseRecOn with
  | nil => simp
  | append_singleton xs x ih =>
      rw [eraseDups_concat]
      split
      · exact ih
      · next h =>
        rw [List.nodup_append_comm]
        exact List.nodup_cons.2 ⟨fun hmem => h (List.mem_eraseDups.1 hmem), ih⟩

theorem filterMap_concat {α β : Type} (f : α → Option β) (xs : List α) (x : α) :
    (xs ++ [x]).filterMap f = xs.filterMap f ++ (f x).toList := by
  rw [List.filterMap_append]
  cases h : f x <;> simp [h]

theorem filterMap_singleton {α β : Type} (f : α → Option β) (x : α) :
    [x].filterMap f = (f x).toList :=
  filterMap_concat f [] x

theorem getLast?_toList {α : Type} (x : Option α) : x.toList.getLast? = x := by
  cases x <;> rfl

/-! ## §2. Texts. -/

/-- The texts put together, if there are any. -/
def joinAll (texts : List String) : Option String :=
  if texts = [] then none else some (String.join texts)

@[simp] theorem getD_joinAll (texts : List String) :
    (joinAll texts).getD "" = String.join texts := by
  unfold joinAll
  split
  · next h =>
    rw [h]
    rfl
  · rfl

@[simp] theorem joinAll_toList (text : Option String) : joinAll text.toList = text := by
  cases text with
  | none => rfl
  | some t => simp [joinAll]

/-- One more text is put behind the others. -/
theorem joinText_joinAll (texts : List String) (more : Option String) :
    joinText (joinAll texts) more = joinAll (texts ++ more.toList) := by
  cases more with
  | none =>
      rw [Option.toList_none, List.append_nil]
      cases joinAll texts <;> rfl
  | some t =>
      by_cases h : texts = []
      · subst h
        simp [joinAll, joinText]
      · simp [joinAll, joinText, h]

/-! ## §3. Parts of tool calls. -/

namespace ToolCallDelta

/-- What the parts of the tool call with the given index add up to. -/
def total (index : Nat) (parts : List ToolCallDelta) : ToolCallDelta :=
  { index
    id := (parts.filterMap (·.id)).head?
    name := joinAll (parts.filterMap (·.name))
    arguments := joinAll (parts.filterMap (·.arguments)) }

/-- What the parts of several tool calls add up to, one for each index, in the order in which the
indices come first. -/
def totals (parts : List ToolCallDelta) : List ToolCallDelta :=
  (parts.map (·.index)).eraseDups.map fun index =>
    total index (parts.filter (·.index = index))

/-- A part is merged behind those before it. -/
theorem total_merge (index : Nat) (parts : List ToolCallDelta) (more : ToolCallDelta) :
    (total index parts).merge more = total index (parts ++ [more]) := by
  simp only [total, merge, filterMap_concat, joinText_joinAll, List.head?_append,
    Option.head?_toList]

theorem total_singleton (part : ToolCallDelta) : total part.index [part] = part := by
  simp only [total, filterMap_singleton, Option.head?_toList, joinAll_toList]

/-- A part of a new tool call goes to the end. -/
theorem mergeInto_new {more : ToolCallDelta} {calls : List ToolCallDelta}
    (h : ∀ call ∈ calls, call.index ≠ more.index) : more.mergeInto calls = calls ++ [more] := by
  induction calls with
  | nil => rfl
  | cons call calls ih =>
      obtain ⟨hcall, hcalls⟩ := List.forall_mem_cons.1 h
      rw [mergeInto, if_neg hcall, ih hcalls, List.cons_append]

/-- A part of a tool call that is there is merged with it, and the others stay as they are. -/
theorem mergeInto_known {more call : ToolCallDelta} {front : List ToolCallDelta}
    (hfront : ∀ call ∈ front, call.index ≠ more.index) (hcall : call.index = more.index)
    (back : List ToolCallDelta) :
    more.mergeInto (front ++ call :: back) = front ++ call.merge more :: back := by
  induction front with
  | nil => rw [List.nil_append, mergeInto, if_pos hcall, List.nil_append]
  | cons first front ih =>
      obtain ⟨hfirst, hfront'⟩ := List.forall_mem_cons.1 hfront
      rw [List.cons_append, mergeInto, if_neg hfirst, ih hfront', List.cons_append]

/-- A part counts for its own tool call only. -/
theorem map_total_concat {parts : List ToolCallDelta} {more : ToolCallDelta} {indices : List Nat}
    (h : more.index ∉ indices) :
    indices.map (fun index => total index ((parts ++ [more]).filter (·.index = index)))
      = indices.map fun index => total index (parts.filter (·.index = index)) := by
  refine List.map_congr_left fun index hmem => ?_
  have hne : more.index ≠ index := by
    rintro rfl
    exact h hmem
  rw [List.filter_append]
  simp [hne]

/-- **One more part makes the next totals.** -/
theorem mergeInto_totals (parts : List ToolCallDelta) (more : ToolCallDelta) :
    more.mergeInto (totals parts) = totals (parts ++ [more]) := by
  have hown : (parts ++ [more]).filter (·.index = more.index)
      = parts.filter (·.index = more.index) ++ [more] := by
    rw [List.filter_append]
    simp
  have hother : ∀ {indices : List Nat}, more.index ∉ indices →
      ∀ call ∈ indices.map fun index => total index (parts.filter (·.index = index)),
        call.index ≠ more.index := by
    intro indices hindex call hcall
    obtain ⟨index, hmem, rfl⟩ := List.mem_map.1 hcall
    rintro rfl
    exact hindex hmem
  rw [totals, totals, List.map_append, List.map_singleton, eraseDups_concat]
  split
  · next hknown =>
    -- The index stands at one place among the others.
    obtain ⟨front, back, hsplit⟩ := List.append_of_mem (List.mem_eraseDups.2 hknown)
    have hnodup := nodup_eraseDups (parts.map (·.index))
    rw [hsplit, List.nodup_middle, List.nodup_cons, List.mem_append, not_or] at hnodup
    obtain ⟨⟨hfront, hback⟩, -⟩ := hnodup
    rw [hsplit, List.map_append, List.map_cons, List.map_append, List.map_cons, hown,
      map_total_concat hfront, map_total_concat hback, ← total_merge]
    exact mergeInto_known (hother hfront) (show (total more.index _).index = more.index from rfl) _
  · next hnew =>
    -- No part with the index has come before, so the part is the whole total.
    have hnone : parts.filter (·.index = more.index) = [] := by
      rw [List.filter_eq_nil_iff]
      intro part hmem heq
      exact hnew (List.mem_map.2 ⟨part, hmem, by simpa using heq⟩)
    have hindex : more.index ∉ (parts.map (·.index)).eraseDups := fun hmem =>
      hnew (List.mem_eraseDups.1 hmem)
    rw [mergeInto_new (hother hindex), List.map_append, List.map_singleton, hown, hnone,
      List.nil_append, total_singleton, map_total_concat hindex]

/-- The parts of a fragment are added one after the other. -/
theorem foldl_mergeInto (parts more : List ToolCallDelta) :
    more.foldl (fun calls part => part.mergeInto calls) (totals parts)
      = totals (parts ++ more) := by
  induction more generalizing parts with
  | nil => rw [List.foldl_nil, List.append_nil]
  | cons part more ih =>
      rw [List.foldl_cons, mergeInto_totals, ih, List.append_assoc, List.singleton_append]

/-- Parts of different tool calls are their own totals. -/
theorem totals_of_nodup {parts : List ToolCallDelta} (h : (parts.map (·.index)).Nodup) :
    totals parts = parts := by
  induction parts using List.reverseRecOn with
  | nil => rfl
  | append_singleton parts part ih =>
      rw [List.map_append, List.map_singleton, List.nodup_append_comm, List.singleton_append,
        List.nodup_cons] at h
      -- The last part is the first one of its tool call.
      rw [← mergeInto_totals, ih h.2, mergeInto_new]
      intro call hmem heq
      exact h.1 (List.mem_map.2 ⟨call, hmem, heq⟩)

end ToolCallDelta

/-! ## §4. Fragments of a choice. -/

namespace Fragment

/-- The fragment has at most one part for each tool call. -/
def Single (f : Fragment) : Prop :=
  (f.toolCalls.map (·.index)).Nodup

instance (f : Fragment) : Decidable f.Single :=
  inferInstanceAs (Decidable (List.Nodup _))

theorem single_text (choice : Nat) (content : String) : (text choice content).Single :=
  List.nodup_nil

theorem single_toolCall (choice : Nat) (part : ToolCallDelta) : (toolCall choice part).Single :=
  List.nodup_singleton _

theorem single_finish (choice : Nat) (reason : FinishReason) : (finish choice reason).Single :=
  List.nodup_nil

/-- Whole tool calls are numbered one after the other. -/
theorem map_index_wholeCalls (index : Nat) (calls : List ToolCall) :
    (wholeCalls index calls).map (·.index) = List.range' index calls.length := by
  induction calls generalizing index with
  | nil => rfl
  | cons call calls ih =>
      rw [wholeCalls, List.map_cons, ih, List.length_cons, List.range'_succ]

theorem single_ofMessage (choice : Nat) (m : Message) : (ofMessage choice m).Single := by
  show ((wholeCalls 0 m.toolCalls).map (·.index)).Nodup
  rw [map_index_wholeCalls]
  exact List.nodup_range'

/-- A fragment of the same choice fits. -/
theorem append_of_choice {sum f : Fragment} (h : f.choice = sum.choice) :
    sum.append f = .ok (sum.join f) := by
  rw [append, if_pos h]

/-- What the fragments of a choice add up to. -/
def total (choice : Nat) (fragments : List Fragment) : Fragment :=
  { choice
    role := (fragments.filterMap (·.role)).head?
    content := joinAll (fragments.filterMap (·.content))
    toolCalls := ToolCallDelta.totals (fragments.flatMap (·.toolCalls))
    finishReason := (fragments.filterMap (·.finishReason)).getLast? }

/-- **One more fragment makes the next total.** -/
theorem total_join (choice : Nat) (fragments : List Fragment) (more : Fragment) :
    (total choice fragments).join more = total choice (fragments ++ [more]) := by
  have hcalls : (fragments ++ [more]).flatMap (·.toolCalls)
      = fragments.flatMap (·.toolCalls) ++ more.toolCalls := by simp
  simp only [total, join, filterMap_concat, joinText_joinAll, List.head?_append,
    Option.head?_toList, ToolCallDelta.foldl_mergeInto, hcalls, List.getLast?_append,
    getLast?_toList]

theorem total_singleton {f : Fragment} (h : f.Single) : total f.choice [f] = f := by
  have hcalls : ToolCallDelta.totals ([f].flatMap (·.toolCalls)) = f.toolCalls := by
    rw [List.flatMap_singleton]
    exact ToolCallDelta.totals_of_nodup h
  simp only [total, filterMap_singleton, Option.head?_toList, joinAll_toList, getLast?_toList,
    hcalls]

end Fragment

/-! ## §5. The choices. -/

namespace Accumulator

/-- A fragment adds its own choice to those that are there. -/
theorem mem_choices_pushTo {f : Fragment} {choices : List (Nat × Fragment)} {choice : Nat} :
    choice ∈ (pushTo f choices).map Prod.fst
      ↔ choice = f.choice ∨ choice ∈ choices.map Prod.fst := by
  induction choices with
  | nil => simp [pushTo]
  | cons entry rest ih =>
      obtain ⟨first, sum⟩ := entry
      rw [pushTo]
      split
      · simp
      split
      · next heq => simp [heq]
      · rw [List.map_cons, List.mem_cons, ih, List.map_cons, List.mem_cons]
        exact or_left_comm

/-- The choices stay in ascending order. -/
theorem ascending_pushTo (f : Fragment) {choices : List (Nat × Fragment)}
    (h : (choices.map Prod.fst).Pairwise (· < ·)) :
    ((pushTo f choices).map Prod.fst).Pairwise (· < ·) := by
  induction choices with
  | nil => exact List.pairwise_singleton _ _
  | cons entry rest ih =>
      obtain ⟨first, sum⟩ := entry
      obtain ⟨hfirst, hrest⟩ := List.pairwise_cons.1 h
      rw [pushTo]
      -- The choice of the fragment comes before that of the entry, is the same, or comes behind it.
      split
      · next hlt =>
        refine List.pairwise_cons.2 ⟨fun choice hmem => ?_, h⟩
        rcases List.mem_cons.1 hmem with rfl | hmem
        · exact hlt
        · exact Nat.lt_trans hlt (hfirst choice hmem)
      split
      · exact h
      · next hle hne =>
        refine List.pairwise_cons.2 ⟨fun choice hmem => ?_, ih hrest⟩
        rcases mem_choices_pushTo.1 hmem with rfl | hmem
        · show first < f.choice
          omega
        · exact hfirst choice hmem

/-- Where a fragment is added: to the sum of its choice, or as the first of a new one.  The other
sums stay as they are, and no fragment is dropped. -/
theorem mem_pushTo {f : Fragment} {choices : List (Nat × Fragment)} {entry : Nat × Fragment}
    (hsums : ∀ entry ∈ choices, entry.2.choice = entry.1)
    (h : (choices.map Prod.fst).Pairwise (· < ·)) (hmem : entry ∈ pushTo f choices) :
    (entry ∈ choices ∧ entry.1 ≠ f.choice) ∨
      (∃ sum, (f.choice, sum) ∈ choices ∧ entry = (f.choice, sum.join f)) ∨
      (f.choice ∉ choices.map Prod.fst ∧ entry = (f.choice, f)) := by
  induction choices with
  | nil => exact .inr (.inr ⟨List.not_mem_nil, List.mem_singleton.1 hmem⟩)
  | cons first rest ih =>
      obtain ⟨choice, sum⟩ := first
      obtain ⟨hchoice, hrest⟩ := List.pairwise_cons.1 h
      obtain ⟨hsum, hsums'⟩ := List.forall_mem_cons.1 hsums
      have hbehind : ∀ entry ∈ rest, choice < entry.1 := fun entry hentry =>
        hchoice entry.1 (List.mem_map_of_mem hentry)
      rw [pushTo] at hmem
      split at hmem
      · next hlt =>
        -- The choice is new, and it comes before all others.
        have hall : ∀ entry ∈ (choice, sum) :: rest, f.choice < entry.1 :=
          List.forall_mem_cons.2
            ⟨hlt, fun entry hentry => Nat.lt_trans hlt (hbehind entry hentry)⟩
        rcases List.mem_cons.1 hmem with rfl | hmem
        · refine .inr (.inr ⟨fun hin => ?_, rfl⟩)
          obtain ⟨entry, hentry, heq⟩ := List.mem_map.1 hin
          have := hall entry hentry
          omega
        · have := hall entry hmem
          exact .inl ⟨hmem, by omega⟩
      split at hmem
      · next heq =>
        -- The choice is the first one, and what it has is of the same choice.
        subst heq
        rcases List.mem_cons.1 hmem with rfl | hmem
        · rw [Fragment.append_of_choice hsum.symm]
          exact .inr (.inl ⟨sum, List.mem_cons_self, rfl⟩)
        · have := hbehind entry hmem
          exact .inl ⟨List.mem_cons_of_mem _ hmem, by omega⟩
      · next hne =>
        -- The choice comes later.
        rcases List.mem_cons.1 hmem with rfl | hmem
        · exact .inl ⟨List.mem_cons_self, Ne.symm hne⟩
        rcases ih hsums' hrest hmem with ⟨hold, hother⟩ | ⟨known, hknown, rfl⟩ | ⟨hnew, rfl⟩
        · exact .inl ⟨List.mem_cons_of_mem _ hold, hother⟩
        · exact .inr (.inl ⟨known, List.mem_cons_of_mem _ hknown, rfl⟩)
        · exact .inr (.inr ⟨List.not_mem_cons_of_ne_of_not_mem hne hnew, rfl⟩)

/-- What has arrived for each choice is the total of the choice's fragments. -/
structure Sums (fragments : List Fragment) (choices : List (Nat × Fragment)) : Prop where
  ascending : (choices.map Prod.fst).Pairwise (· < ·)
  arrived : ∀ choice, choice ∈ choices.map Prod.fst ↔ ∃ f ∈ fragments, f.choice = choice
  totals : ∀ entry ∈ choices,
    entry.2 = Fragment.total entry.1 (fragments.filter (·.choice = entry.1))

/-- **One more fragment makes the next sums.** -/
theorem Sums.push {fragments : List Fragment} {choices : List (Nat × Fragment)}
    (h : Sums fragments choices) {f : Fragment} (hf : f.Single) :
    Sums (fragments ++ [f]) (pushTo f choices) where
  ascending := ascending_pushTo f h.ascending
  arrived choice := by
    rw [mem_choices_pushTo, h.arrived]
    simp only [List.mem_append, List.mem_singleton, or_and_right, exists_or, exists_eq_left]
    rw [or_comm, eq_comm]
  totals entry hentry := by
    have hchoices : ∀ entry ∈ choices, entry.2.choice = entry.1 := by
      intro entry hentry
      rw [h.totals entry hentry]
      rfl
    have hown : (fragments ++ [f]).filter (·.choice = f.choice)
        = fragments.filter (·.choice = f.choice) ++ [f] := by
      rw [List.filter_append]
      simp
    rcases mem_pushTo hchoices h.ascending hentry with
      ⟨hold, hother⟩ | ⟨sum, hsum, rfl⟩ | ⟨hnew, rfl⟩
    · rw [List.filter_append, h.totals entry hold]
      simp [hother.symm]
    · show sum.join f = Fragment.total f.choice _
      rw [hown, ← Fragment.total_join, ← h.totals _ hsum]
    · -- No fragment of the choice has arrived before.
      have hnone : fragments.filter (·.choice = f.choice) = [] := by
        rw [List.filter_eq_nil_iff]
        intro g hg heq
        exact hnew ((h.arrived f.choice).2 ⟨g, hg, by simpa using heq⟩)
      show f = Fragment.total f.choice _
      rw [hown, hnone, List.nil_append, Fragment.total_singleton hf]

/-- **The accumulator holds the sums of all fragments.** -/
theorem sums_ofList {fragments : List Fragment} (h : ∀ f ∈ fragments, f.Single) :
    Sums fragments (ofList fragments).choices := by
  induction fragments using List.reverseRecOn with
  | nil => exact ⟨List.Pairwise.nil, by simp [ofList], by simp [ofList]⟩
  | append_singleton fragments f ih =>
      have hlast : (ofList (fragments ++ [f])).choices = pushTo f (ofList fragments).choices := by
        rw [ofList, List.foldl_append]
        rfl
      rw [hlast]
      exact (ih fun g hg => h g (List.mem_append_left _ hg)).push (h f (by simp))

/-! ## §6. The replies. -/

/-- The tool calls that parts add up to: one for each index, in the order in which the indices come
first, with the first id and all of the names and arguments. -/
def calls (parts : List ToolCallDelta) : List ToolCall :=
  (parts.map (·.index)).eraseDups.map fun index =>
    let own := parts.filter (·.index = index)
    { id := (own.filterMap (·.id)).head?.getD s!"call_{index}"
      name := String.join (own.filterMap (·.name))
      arguments := String.join (own.filterMap (·.arguments)) }

/-- The message that the fragments of a choice add up to. -/
def reply (fragments : List Fragment) : Message :=
  { role := (fragments.filterMap (·.role)).head?.getD .assistant
    content := some (String.join (fragments.filterMap (·.content)))
    toolCalls := calls (fragments.flatMap (·.toolCalls))
    finishReason := (fragments.filterMap (·.finishReason)).getLast? }

theorem toMessage_total (choice : Nat) (fragments : List Fragment) :
    (Fragment.total choice fragments).toMessage = reply fragments := by
  have hcalls : (ToolCallDelta.totals (fragments.flatMap (·.toolCalls))).map (·.toToolCall)
      = calls (fragments.flatMap (·.toolCalls)) := by
    rw [ToolCallDelta.totals, List.map_map, calls]
    refine List.map_congr_left fun index _ => ?_
    simp [ToolCallDelta.total, ToolCallDelta.toToolCall]
  simp only [Fragment.total, Fragment.toMessage, reply, hcalls, getD_joinAll]

/-- **What fragments add up to**, in whatever way their choices are interleaved: one message for
each choice that occurs, in ascending order, and in it what the fragments of the choice say one
after the other.  No fragment may have two parts for one tool call; those that are made from a
text, a part of a tool call, a finish reason or a whole message never have. -/
theorem messages_ofList :
    (∀ choice content, (Fragment.text choice content).Single) ∧
    (∀ choice part, (Fragment.toolCall choice part).Single) ∧
    (∀ choice reason, (Fragment.finish choice reason).Single) ∧
    (∀ choice m, (Fragment.ofMessage choice m).Single) ∧
    ∀ fragments : List Fragment, (∀ f ∈ fragments, f.Single) →
      ∃ choices : List Nat, choices.Pairwise (· < ·) ∧
        (∀ choice, choice ∈ choices ↔ ∃ f ∈ fragments, f.choice = choice) ∧
        (ofList fragments).messages
          = choices.map fun choice => reply (fragments.filter (·.choice = choice)) := by
  refine ⟨Fragment.single_text, Fragment.single_toolCall, Fragment.single_finish,
    Fragment.single_ofMessage, fun fragments h => ?_⟩
  have hsums := sums_ofList h
  refine ⟨(ofList fragments).choices.map Prod.fst, hsums.ascending, hsums.arrived, ?_⟩
  rw [messages, List.map_map]
  refine List.map_congr_left fun entry hentry => ?_
  rw [hsums.totals entry hentry, toMessage_total]
  rfl

/-- Three choices at once: two tool calls in parts, a text in pieces, and a whole message. -/
def interleaved : List Fragment :=
  [.toolCall 1 { index := 2, name := some "ti" }, .text 0 "Hel",
    .toolCall 1 { index := 0, id := some "a", name := some "add" },
    .toolCall 1 { index := 2, name := some "me", arguments := some "[" }, .text 0 "lo",
    .toolCall 1 { index := 2, id := some "b", arguments := some "]" }, .finish 1 .toolCalls,
    .ofMessage 3 (.toolRequests [⟨"c", "sum", ""⟩, ⟨"d", "sum", ""⟩]), .finish 0 .stop]

theorem messages_ofList_interleaved :
    (∀ f ∈ interleaved, f.Single) ∧
    ∃ choices : List Nat, choices.Pairwise (· < ·) ∧
      (∀ choice, choice ∈ choices ↔ ∃ f ∈ interleaved, f.choice = choice) ∧
      (ofList interleaved).messages
        = choices.map fun choice => reply (interleaved.filter (·.choice = choice)) := by
  obtain ⟨-, -, -, -, hmessages⟩ := messages_ofList
  have h : ∀ f ∈ interleaved, f.Single := by decide
  exact ⟨h, hmessages interleaved h⟩

example : (ofList interleaved).messages.map (fun m => (m.text, m.toolCalls)) =
    [("Hello", []), ("", [⟨"b", "time", "[]"⟩, ⟨"a", "add", ""⟩]),
      ("", [⟨"c", "sum", ""⟩, ⟨"d", "sum", ""⟩])] := by
  cbv

end Accumulator

end PromptEngine
