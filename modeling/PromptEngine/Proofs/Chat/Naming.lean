/-
  PromptEngine.Proofs.Chat.Naming — when the tool calls of a streamed reply have ids of their own.

  A tool call takes the first id that one of its parts gives, and one that is given none is named by
  its index (`ToolCallDelta.madeUpId`).  Made-up ids differ from each other (`madeUpId_injective`),
  but nothing keeps them apart from ids that are given: the ids of a reply are distinct exactly if
  no tool call is given the id that is made up for another one (`nodup_ids_calls_iff`).  Besides,
  the first fragment of a choice is kept as it comes, so that two parts of it for one tool call
  would be two tool calls.

  Main result: `callIds_distinct_iff`.  The two ways in which ids can be the same are
  `callIds_not_distinct`.
-/
import PromptEngine.Proofs.Chat.Aggregation
import PromptEngine.Proofs.Engine.Conversation
import PromptEngine.Proofs.Text.Numerals

namespace PromptEngine

/-! ## §1. Ids that are given and ids that are made up. -/

namespace ToolCallDelta

/-- The id of a tool call that is given none. -/
def madeUpId (index : Nat) : String :=
  (toToolCall { index }).id

theorem madeUpId_injective : Function.Injective madeUpId := by
  intro first second h
  have hdigits : toString first = toString second := by
    simpa [madeUpId, toToolCall] using h
  exact toString_injective hdigits

/-- A part gives the id to the tool call with the index. -/
def Gives (parts : List ToolCallDelta) (index : Nat) (id : String) : Prop :=
  ∃ part ∈ parts, part.index = index ∧ part.id = some id

/-- Each tool call is given one id at most, and no two are given the same. -/
structure Named (parts : List ToolCallDelta) : Prop where
  once : ∀ index first second, Gives parts index first → Gives parts index second → first = second
  apart : ∀ index other id, Gives parts index id → Gives parts other id → index = other

/-- A tool call is given the id that is made up for another one, which is given none. -/
def Clash (parts : List ToolCallDelta) : Prop :=
  ∃ index other, Gives parts index (madeUpId other) ∧ other ∈ parts.map (·.index) ∧
    ∀ id, ¬ Gives parts other id

/-- The id that a tool call ends up with. -/
def finalId (parts : List ToolCallDelta) (index : Nat) : String :=
  (total index (parts.filter (·.index = index))).toToolCall.id

variable {parts : List ToolCallDelta} {index : Nat} {id : String}

theorem Gives.mem (h : Gives parts index id) : index ∈ parts.map (·.index) := by
  obtain ⟨part, hpart, rfl, -⟩ := h
  exact List.mem_map_of_mem hpart

/-- The ids that are given to a tool call are those of its parts. -/
theorem mem_ids_iff :
    id ∈ (parts.filter (·.index = index)).filterMap (·.id) ↔ Gives parts index id := by
  simp [Gives, and_assoc]

/-- A tool call ends up with an id that it was given, or with the one that is made up for it. -/
theorem finalId_cases (parts : List ToolCallDelta) (index : Nat) :
    Gives parts index (finalId parts index) ∨
      (∀ id, ¬ Gives parts index id) ∧ finalId parts index = madeUpId index := by
  have hfinal : finalId parts index
      = ((parts.filter (·.index = index)).filterMap (·.id)).head?.getD (madeUpId index) := rfl
  rw [hfinal]
  cases hids : (parts.filter (·.index = index)).filterMap (·.id) with
  | nil =>
      refine .inr ⟨fun id hgives => ?_, rfl⟩
      rw [← mem_ids_iff, hids] at hgives
      exact List.not_mem_nil hgives
  | cons id ids =>
      refine .inl (mem_ids_iff.mp ?_)
      rw [hids]
      exact List.mem_cons_self

theorem Named.finalId_eq (h : Named parts) (hgives : Gives parts index id) :
    finalId parts index = id := by
  obtain hfinal | ⟨hnone, -⟩ := finalId_cases parts index
  · exact h.once index _ _ hfinal hgives
  · exact absurd hgives (hnone id)

/-- **Two tool calls end up with one id** exactly if one of them is given what is made up for the
other. -/
theorem Named.finalId_injOn_iff (h : Named parts) :
    (∀ first ∈ parts.map (·.index), ∀ second ∈ parts.map (·.index),
      finalId parts first = finalId parts second → first = second) ↔ ¬ Clash parts := by
  constructor
  · rintro hinj ⟨index, other, hgives, hother, hnone⟩
    have hsame : finalId parts index = finalId parts other := by
      obtain hfinal | ⟨-, hfinal⟩ := finalId_cases parts other
      · exact absurd hfinal (hnone _)
      · rw [h.finalId_eq hgives, hfinal]
    obtain rfl := hinj index hgives.mem other hother hsame
    exact hnone _ hgives
  · intro hclash first hfirst second hsecond hsame
    -- Both ids are given, both are made up, or one of each meet, which is a clash.
    obtain hgiven | ⟨hnone, hmade⟩ := finalId_cases parts first
    · obtain hgiven' | ⟨hnone', hmade'⟩ := finalId_cases parts second
      · rw [← hsame] at hgiven'
        exact h.apart first second _ hgiven hgiven'
      · rw [hsame, hmade'] at hgiven
        exact absurd ⟨first, second, hgiven, hsecond, hnone'⟩ hclash
    · obtain hgiven' | ⟨-, hmade'⟩ := finalId_cases parts second
      · rw [← hsame, hmade] at hgiven'
        exact absurd ⟨second, first, hgiven', hfirst, hnone⟩ hclash
      · exact madeUpId_injective (hmade.symm.trans (hsame.trans hmade'))

end ToolCallDelta

/-! ## §2. The reply of a choice. -/

namespace Accumulator

open ToolCallDelta

theorem ids_calls (parts : List ToolCallDelta) :
    (calls parts).map (·.id) = (parts.map (·.index)).eraseDups.map (finalId parts) := by
  rw [calls, List.map_map]
  rfl

/-- The ids of the tool calls that parts add up to are distinct exactly if there is no clash. -/
theorem nodup_ids_calls_iff {parts : List ToolCallDelta} (h : Named parts) :
    ((calls parts).map (·.id)).Nodup ↔ ¬ Clash parts := by
  rw [ids_calls, List.nodup_map_iff_inj_on (nodup_eraseDups _), ← h.finalId_injOn_iff]
  simp only [List.mem_eraseDups]

/-- **Fragments of one choice** have one sum, their total, if the first of them has no two parts for
one tool call.  The others may have any parts. -/
theorem choices_ofList_of_choice {opening : Fragment} {later : List Fragment}
    (hsingle : opening.Single) (hchoice : ∀ f ∈ later, f.choice = opening.choice) :
    (ofList (opening :: later)).choices
      = [(opening.choice, Fragment.total opening.choice (opening :: later))] := by
  induction later using List.reverseRecOn with
  | nil =>
      rw [Fragment.total_singleton hsingle]
      rfl
  | append_singleton later f ih =>
      have hf : f.choice = opening.choice := hchoice f (by simp)
      have hlast : (ofList (opening :: (later ++ [f]))).choices
          = pushTo f (ofList (opening :: later)).choices := by
        rw [ofList, ← List.cons_append, List.foldl_append]
        rfl
      have hfits : (Fragment.total opening.choice (opening :: later)).append f
          = .ok (Fragment.total opening.choice (opening :: (later ++ [f]))) := by
        rw [← List.cons_append, ← Fragment.total_join]
        exact Fragment.append_of_choice hf
      -- There is one entry so far, and it is of the choice of the last fragment.
      rw [hlast, ih fun g hg => hchoice g (List.mem_append_left _ hg), pushTo, if_neg (by omega),
        if_pos hf, hfits]
      rfl

theorem messages_ofList_of_choice {opening : Fragment} {later : List Fragment}
    (hsingle : opening.Single) (hchoice : ∀ f ∈ later, f.choice = opening.choice) :
    (ofList (opening :: later)).messages = [reply (opening :: later)] := by
  rw [messages, choices_ofList_of_choice hsingle hchoice, List.map_singleton, toMessage_total]

end Accumulator

/-! ## §3. The answers. -/

/-- Messages that answer requests are found by the ids of these, each by one request only, exactly
if the ids are distinct. -/
theorem Message.Answers.count_eq_one_iff {messages : List Message} {requests : List ToolCall}
    (h : List.Forall₂ Message.Answers messages requests) :
    (∀ request ∈ requests, (messages.map (·.toolCallId)).count (some request.id) = 1) ↔
      (requests.map (·.id)).Nodup := by
  have hkeys : messages.map (·.toolCallId) = (requests.map (·.id)).map some := by
    induction h with
    | nil => rfl
    | cons hfirst _ ih =>
        rw [List.map_cons, List.map_cons, List.map_cons, hfirst.2, ih]
  have hsome : Function.Injective (some : String → Option String) := fun _ _ => Option.some.inj
  rw [hkeys, ← List.nodup_map_iff hsome, List.nodup_iff_count_eq_one]
  simp only [List.forall_mem_map]

namespace Engine

variable {σ : Type} {e : Engine σ} {depth : Nat} {history final : History}
  {requests : List ToolCall} {arguments : Arguments} {s s' : σ} {events : List Event}

/-- Tool calls that are answered have their answers behind the history. -/
theorem answers_of_answerTools
    (h : e.answerTools depth history requests arguments s = some ((.ok (), final), s', events)) :
    ∃ messages, final = history ++ messages ∧ List.Forall₂ Message.Answers messages requests := by
  obtain ⟨answers, heach, hjoin⟩ := answerTools_eq_some_iff.mp h
  unfold joinAnswers at hjoin
  cases hcollect : collect answers with
  | error error =>
      rw [hcollect] at hjoin
      cases hjoin
  | ok messages =>
      rw [hcollect] at hjoin
      have hresolve : e.resolveTools (e.caller depth) arguments requests s
          = some (.ok messages, s', events) :=
        Exec.bind_eq_some_iff.mpr ⟨answers, s', events, [], heach, by rw [hcollect]; rfl,
          (List.append_nil events).symm⟩
      exact ⟨messages, (Prod.mk.inj hjoin).2, resolveTools_answers hresolve⟩

end Engine

/-! ## §4. The whole. -/

namespace Accumulator

open ToolCallDelta

/-- **The ids of a streamed reply.**  Fragments of one choice, the first of which has no two parts
for one tool call, add up to one message.  If each tool call is given one id at most and no two are
given the same, the ids of the message are distinct exactly if no tool call is given the id that is
made up for another one.  Exactly then each request has one message alone under its id, whatever
engine answers them. -/
theorem callIds_distinct_iff (opening : Fragment) (later : List Fragment)
    (hchoice : ∀ f ∈ later, f.choice = opening.choice) (hsingle : opening.Single)
    (hnamed : Named ((opening :: later).flatMap (·.toolCalls))) :
    ∃ m, (ofList (opening :: later)).messages = [m] ∧
      ((m.toolCalls.map (·.id)).Nodup ↔ ¬ Clash ((opening :: later).flatMap (·.toolCalls))) ∧
      ∀ {σ : Type} (e : Engine σ) (depth : Nat) (history final : History) (arguments : Arguments)
        (s s' : σ) (events : List Event),
        e.answerTools depth history m.toolCalls arguments s = some ((.ok (), final), s', events) →
        ∃ messages, final = history ++ messages ∧
          ((∀ request ∈ m.toolCalls,
              (messages.map (·.toolCallId)).count (some request.id) = 1) ↔
            ¬ Clash ((opening :: later).flatMap (·.toolCalls))) := by
  have hids : ((reply (opening :: later)).toolCalls.map (·.id)).Nodup ↔
      ¬ Clash ((opening :: later).flatMap (·.toolCalls)) := nodup_ids_calls_iff hnamed
  refine ⟨_, messages_ofList_of_choice hsingle hchoice, hids, ?_⟩
  intro σ e depth history final arguments s s' events hanswered
  obtain ⟨messages, hfinal, hanswers⟩ := Engine.answers_of_answerTools hanswered
  exact ⟨messages, hfinal, (Message.Answers.count_eq_one_iff hanswers).trans hids⟩

/-- The beginning of a tool call that is given an id. -/
def named : Fragment :=
  .toolCall 0 { index := 1, id := some "call_1", name := some "ring", arguments := some "[" }

/-- The end of this tool call, and another one that is given no id. -/
def unnamed : Fragment :=
  { choice := 0
    toolCalls := [{ index := 1, arguments := some "]" },
      { index := 0, name := some "weigh", arguments := some "[]" }] }

theorem gives_named_iff {index : Nat} {id : String} :
    Gives ([named, unnamed].flatMap (·.toolCalls)) index id ↔ index = 1 ∧ id = "call_1" := by
  simp [Gives, named, unnamed, Fragment.toolCall, eq_comm]

/-- The first tool call is given the id that would be made up for it, and nothing clashes. -/
theorem callIds_distinct_iff_named :
    (∀ f ∈ [unnamed], f.choice = named.choice) ∧ named.Single ∧
      Named ([named, unnamed].flatMap (·.toolCalls)) ∧
      ∃ m, (ofList [named, unnamed]).messages = [m] ∧
        m.toolCalls.map (·.id) = ["call_1", "call_0"] ∧ (m.toolCalls.map (·.id)).Nodup ∧
        ∃ messages,
          ({} : Engine Unit).answerTools 0 [] m.toolCalls {} ()
            = some ((.ok (), messages), (), []) ∧
          ∀ request ∈ m.toolCalls, (messages.map (·.toolCallId)).count (some request.id) = 1 := by
  have hnamed : Named ([named, unnamed].flatMap (·.toolCalls)) := by
    refine ⟨fun index first second hfirst hsecond => ?_, fun index other id hindex hother => ?_⟩
    · rw [(gives_named_iff.mp hfirst).2, (gives_named_iff.mp hsecond).2]
    · rw [(gives_named_iff.mp hindex).1, (gives_named_iff.mp hother).1]
  have hclash : ¬ Clash ([named, unnamed].flatMap (·.toolCalls)) := by
    rintro ⟨index, other, hgives, -, hnone⟩
    have hother : other = 1 := madeUpId_injective ((gives_named_iff.mp hgives).2.trans rfl)
    exact hnone "call_1" (gives_named_iff.mpr ⟨hother, rfl⟩)
  have hchoice : ∀ f ∈ [unnamed], f.choice = named.choice := by decide
  have hsingle : named.Single := by decide
  obtain ⟨m, hmessages, hids, hanswers⟩ :=
    callIds_distinct_iff named [unnamed] hchoice hsingle hnamed
  obtain rfl : m = (Fragment.total 0 [named, unnamed]).toMessage :=
    (List.singleton_inj.mp hmessages).symm
  -- The arguments are no objects; the answers say so.
  have hrun : ({} : Engine Unit).answerTools 0 []
      [⟨"call_1", "ring", "[]"⟩, ⟨"call_0", "weigh", "[]"⟩] {} ()
      = some ((.ok (), [.toolResult "call_1" "ring" Engine.malformedArguments,
          .toolResult "call_0" "weigh" Engine.malformedArguments]), (), []) := by
    cbv
  obtain ⟨messages, hfinal, hcount⟩ := hanswers _ _ _ _ _ _ _ _ hrun
  rw [List.nil_append] at hfinal
  subst hfinal
  exact ⟨hchoice, hsingle, hnamed, _, hmessages, rfl, hids.mpr hclash, _, hrun, hcount.mpr hclash⟩

/-- A tool call that is given what is made up for the next one, which is given nothing. -/
def borrowed : List Fragment :=
  [.toolCall 0 { index := 0, id := some "call_1", name := some "ring" },
    .toolCall 0 { index := 1, name := some "weigh" }]

/-- A first fragment with two parts of one tool call, which is given no id. -/
def doubledOpening : List Fragment :=
  [{ choice := 0
     toolCalls := [{ index := 0, name := some "ri" }, { index := 0, name := some "ng" }] }]

/-- Ids need not be distinct, for two reasons: an id that is given can be that of another tool call
which is given none, and a first fragment with two parts of one tool call makes two tool calls of
them, both without an id. -/
theorem callIds_not_distinct :
    (¬ ∀ (choice : Nat) (fragments : List Fragment), (∀ f ∈ fragments, f.choice = choice) →
      Named (fragments.flatMap (·.toolCalls)) →
      ∀ m ∈ (ofList fragments).messages, (m.toolCalls.map (·.id)).Nodup) ∧
    ¬ ∀ (choice : Nat) (fragments : List Fragment), (∀ f ∈ fragments, f.choice = choice) →
      (∀ index id, ¬ Gives (fragments.flatMap (·.toolCalls)) index id) →
      ∀ m ∈ (ofList fragments).messages, (m.toolCalls.map (·.id)).Nodup := by
  constructor
  · intro h
    have hgives : ∀ index id, Gives (borrowed.flatMap (·.toolCalls)) index id →
        index = 0 ∧ id = "call_1" := by
      simp [Gives, borrowed, Fragment.toolCall, eq_comm]
    have hnamed : Named (borrowed.flatMap (·.toolCalls)) := by
      refine ⟨fun index first second hfirst hsecond => ?_, fun index other id hindex hother => ?_⟩
      · rw [(hgives _ _ hfirst).2, (hgives _ _ hsecond).2]
      · rw [(hgives _ _ hindex).1, (hgives _ _ hother).1]
    have hids := h 0 borrowed (by decide) hnamed _ (List.mem_singleton.mpr rfl)
    revert hids
    decide
  · intro h
    have hnone : ∀ index id, ¬ Gives (doubledOpening.flatMap (·.toolCalls)) index id := by
      simp [Gives, doubledOpening]
    have hids := h 0 doubledOpening (by decide) hnone _ (List.mem_singleton.mpr rfl)
    revert hids
    decide

end Accumulator

end PromptEngine
