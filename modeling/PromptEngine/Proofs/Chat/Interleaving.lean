/-
  PromptEngine.Proofs.Chat.Interleaving — the choices of a reply do not meet.

  An accumulator keeps what has arrived for each choice under that choice, and its choices in
  ascending order (`Accumulator.Kept`).  A fragment finds there nothing or a sum of its own choice,
  so it always fits: none is dropped, and what the other choices have stays as it is
  (`Kept.get?_push`).  What a choice has after a whole row of fragments is therefore decided by its
  own fragments: it is their sum (`get?_ofList`), and an accumulator is no more than what its
  choices have (`Kept.ext`).

  The first fragment of a choice is kept as it comes, even with two parts for one tool call, and
  only what comes behind it is merged.  `ToolCallDelta.grown` and `Fragment.sum?` say what that
  comes to for any fragments at all.  If the first has no two such parts, it is the total of all
  of them (`Fragment.sum?_eq_total`).

  Main result: `ofList_interleaved` — the order in which fragments of different choices arrive is
  without consequence.
-/
import PromptEngine.Proofs.Chat.Aggregation

namespace PromptEngine

/-! ## §1. What comes behind a first fragment. -/

namespace ToolCallDelta

/-- What the tool calls of a first fragment and the parts behind it add up to.  The first of the
calls with an index is added up with the parts that have it, one that comes again stays as it is,
and parts that belong to none of the calls add up to new ones. -/
def grown : List ToolCallDelta → List ToolCallDelta → List ToolCallDelta
  | [], parts => totals parts
  | call :: calls, parts =>
    total call.index (call :: parts.filter (·.index = call.index))
      :: grown calls (parts.filter (·.index ≠ call.index))

/-- Parts are added to the first call if they have its index, and else behind it. -/
theorem foldl_mergeInto_cons (call : ToolCallDelta) (calls parts : List ToolCallDelta) :
    parts.foldl (fun calls part => part.mergeInto calls) (call :: calls)
      = total call.index (call :: parts.filter (·.index = call.index))
        :: (parts.filter (·.index ≠ call.index)).foldl
          (fun calls part => part.mergeInto calls) calls := by
  induction parts using List.reverseRecOn with
  | nil => exact congrArg (· :: calls) (total_singleton call).symm
  | append_singleton parts part ih =>
      have hindex : ∀ own, (total call.index own).index = call.index := fun _ => rfl
      rw [List.foldl_append, List.foldl_cons, List.foldl_nil, ih, mergeInto, hindex]
      by_cases h : part.index = call.index
      · rw [if_pos h.symm, total_merge]
        simp [h]
      · rw [if_neg (Ne.symm h)]
        simp [h]

/-- **All parts** behind the tool calls of a first fragment, added one after the other. -/
theorem foldl_mergeInto_eq_grown (calls parts : List ToolCallDelta) :
    parts.foldl (fun calls part => part.mergeInto calls) calls = grown calls parts := by
  induction calls generalizing parts with
  | nil => exact foldl_mergeInto [] parts
  | cons call calls ih => rw [foldl_mergeInto_cons, ih, grown]

end ToolCallDelta

namespace Fragment

/-- A further fragment of a choice, joined to what the choice has. -/
def joinTo (sum : Option Fragment) (f : Fragment) : Fragment :=
  sum.elim f (·.join f)

/-- What the fragments of a choice add up to, if there are any: the first role and the last finish
reason, the contents put together, and the tool calls of the first fragment with the parts of the
others behind them. -/
def sum? : List Fragment → Option Fragment
  | [] => none
  | first :: rest => some
    { choice := first.choice
      role := ((first :: rest).filterMap (·.role)).head?
      content := joinAll ((first :: rest).filterMap (·.content))
      toolCalls := ToolCallDelta.grown first.toolCalls (rest.flatMap (·.toolCalls))
      finishReason := ((first :: rest).filterMap (·.finishReason)).getLast? }

theorem sum?_singleton (f : Fragment) : sum? [f] = some f := by
  have hcalls : ToolCallDelta.grown f.toolCalls [] = f.toolCalls :=
    (ToolCallDelta.foldl_mergeInto_eq_grown f.toolCalls []).symm
  simp only [sum?, filterMap_singleton, Option.head?_toList, joinAll_toList, getLast?_toList,
    List.flatMap_nil, hcalls]

/-- **One more fragment makes the next sum.** -/
theorem sum?_concat (fragments : List Fragment) (f : Fragment) :
    sum? (fragments ++ [f]) = some (f.joinTo (sum? fragments)) := by
  cases fragments with
  | nil => exact sum?_singleton f
  | cons first rest =>
      have hcalls : ToolCallDelta.grown first.toolCalls ((rest ++ [f]).flatMap (·.toolCalls))
          = f.toolCalls.foldl (fun calls part => part.mergeInto calls)
              (ToolCallDelta.grown first.toolCalls (rest.flatMap (·.toolCalls))) := by
        rw [← ToolCallDelta.foldl_mergeInto_eq_grown, ← ToolCallDelta.foldl_mergeInto_eq_grown,
          List.flatMap_append, List.foldl_append, List.flatMap_singleton]
      rw [List.cons_append, sum?, sum?, joinTo, Option.elim_some, join, hcalls, joinText_joinAll,
        ← List.cons_append]
      simp only [filterMap_concat, List.head?_append, List.getLast?_append, Option.head?_toList,
        getLast?_toList]

/-- If the first fragment has at most one part for each tool call, the sum of the fragments is
their total. -/
theorem sum?_eq_total {first : Fragment} (h : first.Single) (rest : List Fragment) :
    sum? (first :: rest) = some (total first.choice (first :: rest)) := by
  induction rest using List.reverseRecOn with
  | nil => rw [sum?_singleton, total_singleton h]
  | append_singleton rest f ih =>
      rw [← List.cons_append, sum?_concat, ih, ← total_join]
      rfl

end Fragment

/-! ## §2. What a choice has. -/

namespace Accumulator

/-- A choice has nothing if all choices that are there come after it. -/
theorem lookup_of_lt {choices : List (Nat × Fragment)} {choice : Nat}
    (h : ∀ entry ∈ choices, choice < entry.1) : choices.lookup choice = none := by
  rw [List.lookup_eq_none_iff]
  intro entry hentry
  have := h entry hentry
  simp only [bne_iff_ne]
  omega

/-- **One fragment** is joined to what its own choice has, and nothing else changes. -/
theorem lookup_pushTo {f : Fragment} {choices : List (Nat × Fragment)}
    (hown : ∀ entry ∈ choices, entry.2.choice = entry.1)
    (h : (choices.map Prod.fst).Pairwise (· < ·)) (choice : Nat) :
    (pushTo f choices).lookup choice
      = if choice = f.choice then some (f.joinTo (choices.lookup choice))
        else choices.lookup choice := by
  induction choices with
  | nil =>
      rw [pushTo, List.lookup_cons]
      by_cases hchoice : choice = f.choice
      · rw [if_pos hchoice, beq_iff_eq.2 hchoice]
        rfl
      · rw [if_neg hchoice, beq_false_of_ne hchoice]
  | cons entry rest ih =>
      obtain ⟨first, sum⟩ := entry
      obtain ⟨hsum, hown'⟩ := List.forall_mem_cons.1 hown
      obtain ⟨hfirst, hrest⟩ := List.pairwise_cons.1 h
      rw [pushTo]
      split
      · next hlt =>
        -- The choice comes before all others, so it has nothing yet.
        have hnone : ((first, sum) :: rest).lookup f.choice = none :=
          lookup_of_lt (List.forall_mem_cons.2 ⟨hlt, fun entry hentry =>
            Nat.lt_trans hlt (hfirst entry.1 (List.mem_map_of_mem hentry))⟩)
        by_cases hchoice : choice = f.choice
        · rw [if_pos hchoice, hchoice, List.lookup_cons_self, hnone]
          rfl
        · rw [if_neg hchoice, List.lookup_cons, beq_false_of_ne hchoice]
      split
      · next heq =>
        -- What is there is of the same choice, so the fragment fits.
        rw [Fragment.append_of_choice (heq.trans hsum.symm)]
        by_cases hchoice : choice = first
        · rw [if_pos (hchoice.trans heq.symm), hchoice, List.lookup_cons_self,
            List.lookup_cons_self]
          rfl
        · rw [if_neg (fun hf => hchoice (hf.trans heq)), List.lookup_cons, List.lookup_cons,
            beq_false_of_ne hchoice]
      · next hne =>
        rw [List.lookup_cons, List.lookup_cons, ih hown' hrest]
        by_cases hchoice : choice = first
        · rw [beq_iff_eq.2 hchoice]
          exact (if_neg fun hf => hne (hf.symm.trans hchoice)).symm
        · rw [beq_false_of_ne hchoice]

/-! ## §3. Accumulators that keep choices apart. -/

/-- The choices are in ascending order, and what each of them has is of that choice. -/
structure Kept (a : Accumulator) : Prop where
  ascending : (a.choices.map Prod.fst).Pairwise (· < ·)
  own : ∀ entry ∈ a.choices, entry.2.choice = entry.1

theorem kept_empty : Kept {} where
  ascending := List.Pairwise.nil
  own _ hentry := absurd hentry List.not_mem_nil

namespace Kept

variable {a b : Accumulator}

/-- A fragment fits where it is added. -/
theorem append_eq_ok (h : a.Kept) {f sum : Fragment} (hsum : (f.choice, sum) ∈ a.choices) :
    sum.append f = .ok (sum.join f) :=
  Fragment.append_of_choice (h.own _ hsum).symm

/-- **One more fragment** keeps the choices apart. -/
theorem push (h : a.Kept) (f : Fragment) : (a.push f).Kept where
  ascending := ascending_pushTo f h.ascending
  own entry hentry := by
    obtain ⟨hold, -⟩ | ⟨sum, hsum, rfl⟩ | ⟨-, rfl⟩ := mem_pushTo h.own h.ascending hentry
    · exact h.own entry hold
    · show sum.choice = f.choice
      exact h.own _ hsum
    · rfl

theorem get?_push (h : a.Kept) (f : Fragment) (choice : Nat) :
    (a.push f).get? choice
      = if choice = f.choice then some (f.joinTo (a.get? choice)) else a.get? choice :=
  lookup_pushTo h.own h.ascending choice

theorem mem_choices_iff (h : a.Kept) {entry : Nat × Fragment} :
    entry ∈ a.choices ↔ a.get? entry.1 = some entry.2 := by
  constructor
  · intro hentry
    obtain ⟨front, back, hsplit⟩ := List.append_of_mem hentry
    have hascending := h.ascending
    rw [hsplit, List.map_append, List.pairwise_append] at hascending
    refine List.lookup_eq_some_iff.2 ⟨front, back, hsplit, fun other hother => ?_⟩
    -- The choices in front are smaller ones.
    have := hascending.2.2 other.1 (List.mem_map_of_mem hother) entry.1 (by simp)
    simp only [bne_iff_ne]
    omega
  · intro hget
    obtain ⟨front, back, hsplit, -⟩ := List.lookup_eq_some_iff.1 hget
    rw [hsplit]
    exact List.mem_append_right _ List.mem_cons_self

theorem nodup (h : a.Kept) : a.choices.Nodup :=
  List.Nodup.of_map Prod.fst (h.ascending.imp Nat.ne_of_lt)

/-- **An accumulator is what its choices have.** -/
theorem ext (ha : a.Kept) (hb : b.Kept) (h : ∀ choice, a.get? choice = b.get? choice) : a = b := by
  have hperm : a.choices.Perm b.choices := by
    rw [List.perm_ext_iff_of_nodup ha.nodup hb.nodup]
    intro entry
    rw [ha.mem_choices_iff, hb.mem_choices_iff, h]
  -- Two rows with the same entries, both in ascending order, are one row.
  have hchoices : a.choices = b.choices := by
    refine hperm.eq_of_pairwise (fun x y _ _ hxy hyx => ?_)
      (List.pairwise_map.1 ha.ascending) (List.pairwise_map.1 hb.ascending)
    exact absurd hxy (Nat.lt_asymm hyx)
  cases a
  cases b
  exact congrArg Accumulator.mk hchoices

end Kept

/-! ## §4. Whole rows of fragments. -/

theorem ofList_concat (fragments : List Fragment) (f : Fragment) :
    ofList (fragments ++ [f]) = (ofList fragments).push f := by
  rw [ofList, List.foldl_append]
  rfl

/-- **Choices stay apart**, whatever arrives. -/
theorem kept_ofList (fragments : List Fragment) : (ofList fragments).Kept := by
  induction fragments using List.reverseRecOn with
  | nil => exact kept_empty
  | append_singleton fragments f ih =>
      rw [ofList_concat]
      exact ih.push f

/-- **What a choice has** is the sum of its own fragments. -/
theorem get?_ofList (fragments : List Fragment) (choice : Nat) :
    (ofList fragments).get? choice = Fragment.sum? (fragments.filter (·.choice = choice)) := by
  induction fragments using List.reverseRecOn with
  | nil => rfl
  | append_singleton fragments f ih =>
      rw [ofList_concat, (kept_ofList fragments).get?_push, ih, List.filter_append]
      by_cases hchoice : choice = f.choice
      · subst hchoice
        simp [Fragment.sum?_concat]
      · have hother : ¬ f.choice = choice := fun h => hchoice h.symm
        simp [hchoice, hother]

/-- **Choices do not meet.**  Whatever fragments arrive, what is kept for a choice is of that
choice, so the next fragment, whatever it is, fits where it is added; and each choice has the sum
of all of its own fragments, which is their total unless the first has two parts for one tool call.
So two rows of fragments that agree on the fragments of each choice and on their order there,
however the choices are interleaved, make the same accumulator: the same sum for each choice, the
same first choice, and the same messages. -/
theorem ofList_interleaved :
    (∀ fragments : List Fragment, ∀ entry ∈ (ofList fragments).choices,
      entry.2.choice = entry.1) ∧
    (∀ (fragments : List Fragment) (f sum : Fragment),
      (f.choice, sum) ∈ (ofList fragments).choices → sum.append f = .ok (sum.join f)) ∧
    (∀ (fragments : List Fragment) (choice : Nat),
      (ofList fragments).get? choice
        = Fragment.sum? (fragments.filter (·.choice = choice))) ∧
    (∀ (fragments rest : List Fragment) (choice : Nat) (first : Fragment),
      fragments.filter (·.choice = choice) = first :: rest → first.Single →
      (ofList fragments).get? choice = some (Fragment.total choice (first :: rest))) ∧
    ∀ fragments fragments' : List Fragment,
      (∀ choice, fragments.filter (·.choice = choice) = fragments'.filter (·.choice = choice)) →
      ofList fragments = ofList fragments' ∧
        (∀ choice, (ofList fragments).get? choice = (ofList fragments').get? choice) ∧
        (ofList fragments).first? = (ofList fragments').first? ∧
        (ofList fragments).messages = (ofList fragments').messages := by
  refine ⟨fun fragments => (kept_ofList fragments).own,
    fun fragments f sum hsum => (kept_ofList fragments).append_eq_ok hsum, get?_ofList,
    fun fragments rest choice first hown hsingle => ?_, fun fragments fragments' h => ?_⟩
  · have hfirst : first ∈ fragments.filter (·.choice = choice) := by
      rw [hown]
      exact List.mem_cons_self
    have hchoice : first.choice = choice := by
      simpa using List.of_mem_filter hfirst
    rw [get?_ofList, hown, Fragment.sum?_eq_total hsingle, hchoice]
  have hsame : ofList fragments = ofList fragments' := by
    refine (kept_ofList fragments).ext (kept_ofList fragments') fun choice => ?_
    rw [get?_ofList, get?_ofList, h]
  rw [hsame]
  exact ⟨rfl, fun _ => rfl, rfl, rfl⟩

/-- Two choices whose fragments arrive in turn.  One fragment has two parts of one tool call. -/
def inTurn : List Fragment :=
  [.text 1 "b1", { choice := 0, toolCalls := [{ index := 2, name := some "ti" },
    { index := 2, name := some "me" }] }, .text 1 "b2", .finish 0 .toolCalls, .finish 1 .stop]

/-- The same fragments, one choice after the other. -/
def inOrder : List Fragment :=
  [{ choice := 0, toolCalls := [{ index := 2, name := some "ti" },
    { index := 2, name := some "me" }] }, .finish 0 .toolCalls, .text 1 "b1", .text 1 "b2",
    .finish 1 .stop]

theorem ofList_interleaved_inTurn :
    (∀ choice, inTurn.filter (·.choice = choice) = inOrder.filter (·.choice = choice)) ∧
      ofList inTurn = ofList inOrder ∧ (ofList inTurn).messages = (ofList inOrder).messages ∧
      (ofList inTurn).first? = some 0 := by
  have h : ∀ choice,
      inTurn.filter (·.choice = choice) = inOrder.filter (·.choice = choice) := by
    intro choice
    by_cases h0 : 0 = choice
    · subst h0
      rfl
    · by_cases h1 : 1 = choice
      · subst h1
        rfl
      · simp [inTurn, inOrder, Fragment.text, Fragment.finish, h0, h1]
  obtain ⟨hsame, -, -, hmessages⟩ := ofList_interleaved.2.2.2.2 inTurn inOrder h
  exact ⟨h, hsame, hmessages, rfl⟩

end Accumulator

end PromptEngine
