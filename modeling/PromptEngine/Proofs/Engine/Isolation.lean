/-
  PromptEngine.Proofs.Engine.Isolation — the tool calls of a round do not see each other.

  Each request of a round begins with a copy of the conversation's arguments, over which only its
  own are written.  What the requests share is the state that functions and hooks act on.  Where
  these answer without regard to the state (`Engine.Stateless`), so does every invocation
  (`Stateless.caller`) and every request (`Stateless.resolveTool`): a request has one message that
  answers it (`Engine.message?`), from whatever state and in whatever round.  A round is then
  answered exactly if each of its requests is, by these messages (`leaves_iff`).

  Main results:
    * `Engine.stateless_of_respects` — an engine is without state if its parts are,
    * `Engine.answerTools_isolated` — rounds can be cut, put together and put in another order.
-/
import PromptEngine.Proofs.Engine.Answers
import PromptEngine.Proofs.Engine.Simulation
import PromptEngine.Proofs.Engine.Tools

namespace PromptEngine

variable {σ α : Type}

/-! ## §1. Computations without state. -/

namespace Correspondence

/-- Any traces correspond. -/
def any : Correspondence where
  holds _ _ := True
  nil := trivial
  append _ _ := trivial

theorem surrounds_any : any.Surrounds where
  before _ _ _ _ := trivial
  after _ _ _ _ := trivial
  request _ _ _ _ := trivial
  fragment _ := trivial
  run _ _ _ _ _ := trivial

theorem admits_any (d : Descriptor) : any.Admits d where
  call _ := trivial
  body _ _ _ _ := trivial

end Correspondence

namespace Exec

variable {x : Exec σ α}

/-- What a computation comes to, and whether it comes to an end, is the same from every state. -/
def Stateless (x : Exec σ α) : Prop :=
  ∀ s t, (x s).map Prod.fst = (x t).map Prod.fst

/-- A computation that tells no states apart comes to the same from all of them. -/
theorem stateless_of_steady {C : Correspondence} (h : x.Steady (fun _ _ => True) C) :
    x.Stateless := by
  intro s t
  obtain ⟨hl, hr⟩ | ⟨a, s₁, first, b, t₁, second, hl, hr, hab, -, -⟩ :=
    InStep.ends h (trivial : (fun _ _ => True) s t)
  · rw [hl, hr]
  · rw [hl, hr, hab]
    rfl

theorem Stateless.steady (h : x.Stateless) : x.Steady (fun _ _ => True) .any := by
  intro s t _
  have hst := h s t
  cases hl : x s with
  | none =>
      rw [hl, Option.map_none] at hst
      rw [Option.map_eq_none_iff.1 hst.symm]
      exact .none
  | some l =>
      rw [hl, Option.map_some] at hst
      obtain ⟨r, hr, hvalue⟩ := Option.map_eq_some_iff.1 hst.symm
      rw [hr]
      exact .some ⟨hvalue.symm, trivial, trivial⟩

end Exec

/-! ## §2. Engines without state. -/

/-- An engine whose functions and hooks have no state: what carrying out a registered function comes
to depends on nothing but the function and its arguments, and what a hook answers on nothing but
the function and what the hook is told of the call. -/
structure Engine.Stateless (e : Engine σ) : Prop where
  functions : ∀ f ∈ e.registry.functions, ∀ depth arguments,
    (e.carryOut (e.caller depth) f arguments).Stateless
  before : ∀ entry ∈ e.hooks, ∀ d pending s t,
    (entry.2.before d pending s).1 = (entry.2.before d pending t).1
  after : ∀ entry ∈ e.hooks, ∀ d finished s t,
    (entry.2.after d finished s).1 = (entry.2.after d finished t).1

namespace Engine

variable {e : Engine σ} {depth : Nat} {arguments : Arguments} {s s₀ s' : σ} {events : List Event}
  {history final : History} {requests : List ToolCall} {request : ToolCall} {message : Message}

/-- **An engine has no state if its parts have none**: native functions, hooks and the services that
prompt functions ask. -/
theorem stateless_of_respects (h : e.Respects fun _ _ => True) : e.Stateless where
  functions := by
    intro f hf depth arguments
    exact Exec.stateless_of_steady (inStep_carryOut Correspondence.surrounds_same h
      (steady_caller h depth) (h.functions f hf) (Correspondence.admits_same _) arguments)
  before := by
    intro entry hentry d pending s t
    exact ((h.hooks entry hentry).before d pending s t trivial).1
  after := by
    intro entry hentry d finished s t
    exact ((h.hooks entry hentry).after d finished s t trivial).1

namespace Stateless

variable (h : e.Stateless)

include h

theorem hooks : ∀ entry ∈ e.hooks, entry.2.Respects fun _ _ => True := by
  intro entry hentry
  constructor
  · intro d pending s t _
    exact ⟨h.before entry hentry d pending s t, trivial⟩
  · intro d finished s t _
    exact ⟨h.after entry hentry d finished s t, trivial⟩

/-- **Invocations** come to the same from every state, hooks and further attempts included. -/
theorem caller {f : Function σ} (hf : f ∈ e.registry.functions) (depth : Nat)
    (arguments : Arguments) : (e.caller depth f arguments).Stateless := by
  cases depth with
  | zero => exact Exec.stateless_of_steady (C := .any) Exec.steady_exhausted
  | succ depth =>
      have hbody := fun given => (h.functions f hf depth given).steady
      have hattempts := steady_attempts Correspondence.surrounds_any h.hooks
        (Correspondence.admits_any _) hbody e.config.maxRepeats arguments
      exact Exec.stateless_of_steady
        (Exec.InStep.inside hattempts (Correspondence.surrounds_any.run _ _))

/-- **Requests** come to the same from every state. -/
theorem resolveTool (depth : Nat) (arguments : Arguments) (request : ToolCall) :
    (e.resolveTool (e.caller depth) arguments request).Stateless := by
  apply Exec.stateless_of_steady (C := .any)
  rw [resolveTool_eq]
  cases hprepare : e.prepareTool arguments request with
  | error error => exact Exec.steady_pure _
  | ok prepared =>
      cases prepared with
      | answer message => exact Exec.steady_pure _
      | call f given =>
          have hf := mem_functions_of_prepareTool hprepare
          exact (h.caller hf depth given).steady.orFail fun _ => Exec.steady_pure _

end Stateless

/-! ## §3. One request. -/

/-- The message that answers a request which is carried out by itself, if it is answered. -/
def message? (e : Engine σ) (depth : Nat) (arguments : Arguments) (s : σ) (request : ToolCall) :
    Option Message :=
  ((e.resolveTool (e.caller depth) arguments request s).map Prod.fst).bind Except.toOption

theorem message?_eq_some_iff :
    e.message? depth arguments s request = some message ↔
      ∃ s' events,
        e.resolveTool (e.caller depth) arguments request s = some (.ok message, s', events) := by
  unfold message?
  cases e.resolveTool (e.caller depth) arguments request s with
  | none => simp
  | some run =>
      obtain ⟨outcome, s', events⟩ := run
      cases outcome <;> simp [Except.toOption]

/-- A request is answered alike from every state. -/
theorem Stateless.message?_eq (h : e.Stateless) (s t : σ) (request : ToolCall) :
    e.message? depth arguments s request = e.message? depth arguments t request := by
  unfold message?
  rw [h.resolveTool depth arguments request s t]

/-! ## §4. One round. -/

/-- From a state, all requests are answered in a history, and a history is left. -/
def Leaves (e : Engine σ) (depth : Nat) (arguments : Arguments) (s : σ) (history : History)
    (requests : List ToolCall) (final : History) : Prop :=
  ∃ s' events,
    e.answerTools depth history requests arguments s = some ((.ok (), final), s', events)

/-- Outcomes none of which is a failure are collected. -/
theorem collect_map_ok {ε α : Type} (values : List α) :
    collect (values.map (.ok : α → Except ε α)) = .ok values := by
  induction values with
  | nil => rfl
  | cons value values ih =>
      rw [List.map_cons, collect, ih]
      rfl

/-- **Every request of a round has the answer that it has by itself.** -/
theorem resolveEach_eq_ok_iff (h : e.Stateless) (s₀ : σ) {messages : List Message} :
    (∃ s' events, e.resolveEach (e.caller depth) arguments requests s
        = some (messages.map .ok, s', events)) ↔
      requests.map (e.message? depth arguments s₀) = messages.map some := by
  -- The state that a request leaves is another one to begin with, which makes no difference.
  induction requests generalizing s messages with
  | nil =>
      constructor
      · rintro ⟨s', events, hrun⟩
        rw [resolveEach_nil] at hrun
        obtain ⟨hnil, -, -⟩ := Exec.pure_eq_some_iff.1 hrun
        rw [List.map_eq_nil_iff.1 hnil]
        rfl
      · intro hnil
        rw [List.map_eq_nil_iff.1 hnil.symm, resolveEach_nil]
        exact ⟨s, [], rfl⟩
  | cons request requests ih =>
      rw [resolveEach_cons]
      constructor
      · rintro ⟨s', events, hrun⟩
        obtain ⟨answer, s₁, first, rest, hfirst, hrest, -⟩ := Exec.bind_eq_some_iff.1 hrun
        obtain ⟨answers, s₂, second, last, hsecond, hlast, -⟩ := Exec.bind_eq_some_iff.1 hrest
        obtain ⟨hanswers, -, -⟩ := Exec.pure_eq_some_iff.1 hlast
        obtain ⟨message, others, rfl, rfl, rfl⟩ := List.map_eq_cons_iff.1 hanswers
        have hmessage := message?_eq_some_iff.2 ⟨s₁, first, hfirst⟩
        rw [List.map_cons, List.map_cons, h.message?_eq s₀ s, hmessage, ih.1 ⟨s₂, second, hsecond⟩]
      · intro hmap
        obtain ⟨message, others, rfl, hmessage, hothers⟩ := List.map_eq_cons_iff.1 hmap.symm
        rw [h.message?_eq s₀ s, eq_comm] at hmessage
        obtain ⟨s₁, first, hfirst⟩ := message?_eq_some_iff.1 hmessage
        obtain ⟨s₂, second, hsecond⟩ := ih.2 hothers.symm
        refine ⟨s₂, first ++ (second ++ []), ?_⟩
        refine Exec.bind_eq_some_iff.2 ⟨_, s₁, first, _, hfirst, ?_, rfl⟩
        exact Exec.bind_eq_some_iff.2 ⟨_, s₂, second, [], hsecond, rfl, rfl⟩

/-- **A round is answered exactly if each of its requests is**, and adds their messages. -/
theorem leaves_iff (h : e.Stateless) (s₀ : σ) :
    e.Leaves depth arguments s history requests final ↔
      ∃ messages, requests.map (e.message? depth arguments s₀) = messages.map some ∧
        final = history ++ messages := by
  unfold Leaves
  constructor
  · rintro ⟨s', events, hrun⟩
    obtain ⟨answers, heach, hends⟩ := answerTools_eq_some_iff.1 hrun
    -- A request that fails ends the round, so none of the answers is a failure.
    obtain ⟨messages, rfl, hcollect⟩ | ⟨front, error, back, rfl, hcollect⟩ := collect_cases answers
    · rw [joinAnswers, hcollect] at hends
      exact ⟨messages, (resolveEach_eq_ok_iff h s₀).1 ⟨s', events, heach⟩, (Prod.mk.inj hends).2⟩
    · rw [joinAnswers, hcollect] at hends
      exact absurd (Prod.mk.inj hends).1 nofun
  · rintro ⟨messages, hmap, rfl⟩
    obtain ⟨s', events, heach⟩ := (resolveEach_eq_ok_iff (s := s) h s₀).2 hmap
    refine ⟨s', events, answerTools_eq_some_iff.2 ⟨_, heach, ?_⟩⟩
    rw [joinAnswers, collect_map_ok]

/-! ## §5. Rounds. -/

/-- Answers stay with their requests when these are put in another order. -/
theorem exists_answers_of_perm {β γ : Type} {answer : β → Option γ} {xs ys : List β}
    (hperm : xs.Perm ys) {as : List γ} (has : xs.map answer = as.map some) :
    ∃ bs, ys.map answer = bs.map some ∧ as.Perm bs ∧ (xs.zip as).Perm (ys.zip bs) := by
  induction hperm generalizing as with
  | nil =>
      obtain rfl := List.map_eq_nil_iff.1 has.symm
      exact ⟨[], rfl, .nil, .nil⟩
  | cons x _ ih =>
      obtain ⟨a, as, rfl, hx, hrest⟩ := List.map_eq_cons_iff.1 has.symm
      obtain ⟨bs, hbs, hvalues, hpairs⟩ := ih hrest.symm
      refine ⟨a :: bs, ?_, hvalues.cons a, hpairs.cons (x, a)⟩
      rw [List.map_cons, List.map_cons, hx, hbs]
  | swap x y rest =>
      obtain ⟨a, as, rfl, hy, hmore⟩ := List.map_eq_cons_iff.1 has.symm
      obtain ⟨b, as, rfl, hx, hrest⟩ := List.map_eq_cons_iff.1 hmore
      refine ⟨b :: a :: as, ?_, .swap b a as, .swap (x, b) (y, a) (rest.zip as)⟩
      simp only [List.map_cons, hx, hy, hrest]
  | trans _ _ ih₁ ih₂ =>
      obtain ⟨bs, hbs, hvalues₁, hpairs₁⟩ := ih₁ has
      obtain ⟨cs, hcs, hvalues₂, hpairs₂⟩ := ih₂ hbs
      exact ⟨cs, hcs, hvalues₁.trans hvalues₂, hpairs₁.trans hpairs₂⟩

/-- **Tool calls of a round are isolated from each other.**  In an engine without state, and
whatever the states that rounds begin with: a round is answered, and leaves a history, exactly if
its two parts are, one after the other; the message for a request is the one that answers it alone,
whichever requests stand in front of it and behind it; and if the requests are put in another
order, their messages are put in this order with them.  Each call is given the arguments of the
conversation with nothing but its own written over them. -/
theorem answerTools_isolated (h : e.Stateless) (depth : Nat) (arguments : Arguments) :
    (∀ s t u history xs ys final,
      e.Leaves depth arguments s history (xs ++ ys) final ↔
        ∃ middle, e.Leaves depth arguments t history xs middle ∧
          e.Leaves depth arguments u middle ys final) ∧
    (∀ s history front request back final,
      e.Leaves depth arguments s history (front ++ request :: back) final →
      ∃ before message behind, final = history ++ (before ++ message :: behind) ∧
        before.length = front.length ∧ behind.length = back.length ∧
        ∀ t other, e.Leaves depth arguments t other [request] (other ++ [message])) ∧
    (∀ s t history requests requests' final, requests.Perm requests' →
      e.Leaves depth arguments s history requests final →
      ∃ messages messages', final = history ++ messages ∧
        e.Leaves depth arguments t history requests' (history ++ messages') ∧
        messages.Perm messages' ∧ (requests.zip messages).Perm (requests'.zip messages')) ∧
    ∀ s history requests ending s' events,
      e.answerTools depth history requests arguments s = some (ending, s', events) →
      List.Forall₂ Event.Calls events (requests.filterMap (e.toolCall? arguments)) ∧
        ∀ request f table, e.toolCall? arguments request = some (f, table) →
          ∃ given, request.readArguments = .ok given ∧ table = arguments.insertAll given := by
  refine ⟨?_, ?_, ?_, ?_⟩
  · intro s t u history xs ys final
    -- One state stands for all three, since messages do not depend on it.
    simp only [leaves_iff h s]
    constructor
    · rintro ⟨messages, hmap, rfl⟩
      rw [List.map_append, eq_comm, List.map_eq_append_iff] at hmap
      obtain ⟨front, back, rfl, hfront, hback⟩ := hmap
      refine ⟨_, ⟨front, hfront.symm, rfl⟩, back, hback.symm, ?_⟩
      rw [List.append_assoc]
    · rintro ⟨middle, ⟨front, hfront, rfl⟩, back, hback, rfl⟩
      refine ⟨front ++ back, ?_, (List.append_assoc ..)⟩
      rw [List.map_append, List.map_append, hfront, hback]
  · intro s history front request back final hround
    obtain ⟨messages, hmap, rfl⟩ := (leaves_iff h s).1 hround
    rw [List.map_append, List.map_cons, eq_comm, List.map_eq_append_iff] at hmap
    obtain ⟨before, rest, rfl, hbefore, hrest⟩ := hmap
    obtain ⟨message, behind, rfl, hmessage, hbehind⟩ := List.map_eq_cons_iff.1 hrest
    refine ⟨before, message, behind, rfl, ?_, ?_, ?_⟩
    · simpa using congrArg List.length hbefore
    · simpa using congrArg List.length hbehind
    · intro t other
      refine (leaves_iff h s).2 ⟨[message], ?_, rfl⟩
      rw [List.map_singleton, List.map_singleton, hmessage]
  · intro s t history requests requests' final hperm hround
    obtain ⟨messages, hmap, rfl⟩ := (leaves_iff h s).1 hround
    obtain ⟨messages', hmap', hvalues, hpairs⟩ := exists_answers_of_perm hperm hmap
    exact ⟨messages, messages', rfl, (leaves_iff h s).2 ⟨messages', hmap', rfl⟩, hvalues, hpairs⟩
  · intro s history requests ending s' events hrun
    obtain ⟨answers, heach, -⟩ := answerTools_eq_some_iff.1 hrun
    refine ⟨(inTurn_resolveEach heach).calls fun _ _ _ _ _ => calls_resolveTool, ?_⟩
    intro request f table hcall
    obtain ⟨given, hread, -, htable⟩ := toolCall?_eq_some hcall
    exact ⟨given, hread, htable⟩

/-- A function that counts its calls but does not look at the count. -/
def measure : Function Nat :=
  { descriptor :=
      { name := "measure"
        collection := "lab"
        parameters := [{ name := "unit", default? := some (.string "m") }] }
    body := .native fun arguments n => (.ok ((arguments.get? "unit").getD .null), n + 1) }

/-- An engine with that function and a hook that counts as well. -/
def lab : Engine Nat :=
  { registry := ⟨.ofList [("lab", { name := "lab", functions := .ofList [("measure", measure)] })]⟩
    hooks := [(⟨0⟩, { before := fun _ _ n => ({}, n + 1) })] }

/-- A request that names a unit. -/
def inCentimetres : ToolCall :=
  ⟨"a", "lab-measure", "\x7b\"unit\":\"cm\"\x7d"⟩

/-- A request that leaves the unit to the default. -/
def byDefault : ToolCall :=
  ⟨"b", "lab-measure", ""⟩

theorem message?_inCentimetres :
    lab.message? 1 {} 0 inCentimetres = some (.toolResult "a" "lab-measure" "cm") := by
  have hobject : Json.read? inCentimetres.arguments
      = some (.object [("unit", .string "cm")]) := by
    cbv
  have hread := ToolCall.readArguments_object hobject
  have hcall : lab.prepareTool {} inCentimetres
      = .ok (.call measure (.ofList [("unit", .string "cm")])) := by
    unfold prepareTool
    rw [hread]
    rfl
  unfold message?
  rw [resolveTool_eq, hcall]
  rfl

theorem answerTools_isolated_lab :
    lab.Stateless ∧
    lab.Leaves 1 {} 0 [.user "how long?"] [inCentimetres]
      [.user "how long?", .toolResult "a" "lab-measure" "cm"] ∧
    lab.Leaves 1 {} 0 [.user "how long?", .toolResult "a" "lab-measure" "cm"] [byDefault]
      [.user "how long?", .toolResult "a" "lab-measure" "cm",
        .toolResult "b" "lab-measure" "m"] ∧
    lab.Leaves 1 {} 5 [.user "how long?"] [inCentimetres, byDefault]
      [.user "how long?", .toolResult "a" "lab-measure" "cm",
        .toolResult "b" "lab-measure" "m"] ∧
    ∃ messages, lab.Leaves 1 {} 7 [.user "how long?"] [byDefault, inCentimetres]
        (.user "how long?" :: messages) ∧
      messages.Perm [.toolResult "a" "lab-measure" "cm", .toolResult "b" "lab-measure" "m"] := by
  have hlab : lab.Stateless := by
    refine stateless_of_respects ⟨?_, ?_, ?_⟩
    · intro f hf
      obtain rfl := List.mem_singleton.1 (show f ∈ [measure] from hf)
      intro arguments s t _
      exact ⟨rfl, trivial⟩
    · intro entry hentry
      obtain rfl := List.mem_singleton.1 hentry
      exact ⟨fun _ _ _ _ _ => ⟨rfl, trivial⟩, fun _ _ _ _ _ => ⟨rfl, trivial⟩⟩
    · exact nofun
  obtain ⟨happend, -, hperm, -⟩ := answerTools_isolated hlab 1 {}
  have hfirst : lab.Leaves 1 {} 0 [.user "how long?"] [inCentimetres]
      ([.user "how long?"] ++ [.toolResult "a" "lab-measure" "cm"]) :=
    (leaves_iff hlab 0).2 ⟨[_], congrArg (fun m => [m]) message?_inCentimetres, rfl⟩
  have hsecond : lab.Leaves 1 {} 0
      [.user "how long?", .toolResult "a" "lab-measure" "cm"] [byDefault]
      [.user "how long?", .toolResult "a" "lab-measure" "cm",
        .toolResult "b" "lab-measure" "m"] :=
    ⟨_, _, rfl⟩
  have hboth := (happend 5 0 0 _ [inCentimetres] [byDefault] _).2 ⟨_, hfirst, hsecond⟩
  obtain ⟨messages, messages', hmessages, hother, hvalues, -⟩ :=
    hperm 5 7 _ _ [byDefault, inCentimetres] _ (.swap byDefault inCentimetres []) hboth
  have hrest : [_, _] = messages := (List.cons.inj hmessages).2
  rw [← hrest] at hvalues
  exact ⟨hlab, hfirst, hsecond, hboth, messages', hother, hvalues.symm⟩

end Engine

end PromptEngine
