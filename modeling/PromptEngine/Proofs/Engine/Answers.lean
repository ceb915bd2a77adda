/-
  PromptEngine.Proofs.Engine.Answers — the tool calls of a reply are answered all or not at all.

  The requests of a reply are carried out at the same time.  They are begun in their order, each
  once and whatever becomes of the others; what they do then may be interleaved in any way.  What a
  request comes to a call of depends on nothing but the request and the arguments of the
  conversation, of which each has a copy of its own (`toolCall?_eq_some`).  When all of them have an
  outcome, these are collected: all of them are messages, or there is a first failure among them
  (`collect_cases`).  Only in the first case does anything join the history.

  Main result: `answerTools_whole`.
-/
import PromptEngine.Proofs.Engine.InTurn

namespace PromptEngine.Engine

variable {σ : Type} {e : Engine σ} {depth : Nat} {arguments : Arguments} {s s' : σ}
  {events : List Event}

/-! ## §1. One request. -/

/-- The call that a request for a tool comes to, if it comes to one. -/
def toolCall? (e : Engine σ) (arguments : Arguments) (request : ToolCall) :
    Option (Function σ × Arguments) :=
  match e.prepareTool arguments request with
  | .ok (.call f given) => some (f, given)
  | _ => none

/-- A call is one of the tool that was asked for, and what the model gives is written over the
arguments of the conversation. -/
theorem toolCall?_eq_some {request : ToolCall} {f : Function σ} {table : Arguments}
    (h : e.toolCall? arguments request = some (f, table)) :
    ∃ given, request.readArguments = .ok given ∧ e.registry.resolveTool request.name = .ok f ∧
      table = arguments.insertAll given := by
  have hprepare : e.prepareTool arguments request = .ok (.call f table) := by
    unfold toolCall? at h
    split at h
    · next hcall =>
      cases h
      exact hcall
    · contradiction
  obtain ⟨given, hread, hresolve, -, htable⟩ := prepareTool_eq_call_iff.mp hprepare
  exact ⟨given, hread, hresolve, htable⟩

/-- Carrying out a request makes its call and no other. -/
theorem calls_resolveTool {request : ToolCall} {answer : Except EngineError Message}
    (h : e.resolveTool (e.caller depth) arguments request s = some (answer, s', events)) :
    List.Forall₂ Event.Calls events (e.toolCall? arguments request).toList := by
  unfold toolCall?
  obtain ⟨error, hprepare, -, -, rfl⟩ | ⟨message, hprepare, -, -, rfl⟩ |
    ⟨f, given, result, hprepare, hcall, -⟩ := resolveTool_cases h
  · rw [hprepare]
    exact .nil
  · rw [hprepare]
    exact .nil
  · rw [hprepare]
    exact calls_caller hcall

/-! ## §2. All requests. -/

/-- Requests are carried out in turn. -/
theorem inTurn_resolveEach {invoke : Caller σ Outcome} {requests : List ToolCall}
    {answers : List (Except EngineError Message)}
    (h : e.resolveEach invoke arguments requests s = some (answers, s', events)) :
    Exec.InTurn (e.resolveTool invoke arguments) requests s answers s' events := by
  induction requests generalizing s answers events with
  | nil =>
      rw [resolveEach_nil] at h
      obtain ⟨rfl, rfl, rfl⟩ := Exec.pure_eq_some_iff.mp h
      exact .nil
  | cons request requests ih =>
      rw [resolveEach_cons] at h
      obtain ⟨answer, s₁, first, rest, hfirst, hrest, rfl⟩ := Exec.bind_eq_some_iff.mp h
      obtain ⟨more, s₂, second, last, hmore, hlast, rfl⟩ := Exec.bind_eq_some_iff.mp hrest
      obtain ⟨rfl, rfl, rfl⟩ := Exec.pure_eq_some_iff.mp hlast
      rw [List.append_nil]
      exact .cons hfirst (ih hmore)

/-- All outcomes are there and are collected, or the first failure among them is all that is. -/
theorem collect_cases {ε α : Type} (outcomes : List (Except ε α)) :
    (∃ values, outcomes = values.map .ok ∧ collect outcomes = .ok values) ∨
      ∃ (front : List α) (error : ε) (back : List (Except ε α)),
        outcomes = front.map .ok ++ .error error :: back ∧ collect outcomes = .error error := by
  induction outcomes with
  | nil => exact Or.inl ⟨[], rfl, rfl⟩
  | cons outcome outcomes ih =>
      cases outcome with
      | error error => exact Or.inr ⟨[], error, outcomes, rfl, rfl⟩
      | ok value =>
          obtain ⟨values, rfl, hcollect⟩ | ⟨front, error, back, rfl, hcollect⟩ := ih
          · refine Or.inl ⟨value :: values, rfl, ?_⟩
            simp [collect, hcollect, bind, Except.bind, pure, Except.pure]
          · refine Or.inr ⟨value :: front, error, back, rfl, ?_⟩
            simp [collect, hcollect, bind, Except.bind]

/-- **Each request is processed once.**  Requests are begun in their order, and none acts before it
was begun.  One that comes to a call carries out this call, from its beginning to its outcome, and
does nothing else; one that comes to none does nothing.  Whoever acts finds the state that was left
by the act before it, whosever that was. -/
structure Processed (e : Engine σ) (invoke : Starter σ Outcome) (arguments : Arguments)
    (requests : List ToolCall) (s : σ) (answers : List (Except EngineError Message)) (s' : σ)
    (moves : List (Move σ)) : Prop where
  starts : startsOf moves = List.range requests.length
  startsFirst : ∀ (k n : Nat) (own : Act σ), moves[n]? = some (.act k own) →
    ∃ m < n, moves[m]? = some (.start k)
  length : answers.length = requests.length
  call : ∀ (k : Nat) (request : ToolCall) (f : Function σ) (table : Arguments),
    requests[k]? = some request → e.toolCall? arguments request = some (f, table) →
    ∃ outcome, (invoke f table).Goes (actsOf k moves) (.done outcome) ∧
      answers[k]? = some (outcome.map fun outcome =>
        .toolResult request.id f.descriptor.toolName outcome.text)
  noCall : ∀ (k : Nat) (request : ToolCall), requests[k]? = some request →
    e.toolCall? arguments request = none →
    actsOf k moves = [] ∧
      ((∃ message, e.prepareTool arguments request = .ok (.answer message) ∧
          answers[k]? = some (.ok message)) ∨
        ∃ error, e.prepareTool arguments request = .error error ∧
          answers[k]? = some (.error error))
  unbroken : Unbroken s (allActs moves) s'

section Round

variable {invoke : Starter σ Outcome} {requests : List ToolCall} {schedule : List Nat}
  {answers : List (Except EngineError Message)}

theorem processed_of_carriedOut {moves : List (Move σ)}
    (h : Round.CarriedOut (requests.map (e.toolJob invoke arguments)) s answers s' moves) :
    Processed e invoke arguments requests s answers s' moves := by
  have hlength : answers.length = requests.length := h.length.trans (List.length_map _)
  -- The job of a request has come to its outcome.
  have hjob : ∀ (k : Nat) (request : ToolCall), requests[k]? = some request →
      ∃ answer, answers[k]? = some answer ∧
        (e.toolJob invoke arguments request).Goes (actsOf k moves) (.done answer) := by
    intro k request hrequest
    have hk : k < answers.length := by
      rw [hlength]
      exact (List.getElem?_eq_some_iff.mp hrequest).1
    refine ⟨answers[k], List.getElem?_eq_getElem hk, ?_⟩
    refine h.goes k _ _ ?_ (List.getElem?_eq_getElem hk)
    rw [List.getElem?_map, hrequest]
    rfl
  refine ⟨?_, h.startsFirst, hlength, ?_, ?_, h.unbroken⟩
  · rw [h.starts, List.length_map]
  · intro k request f table hrequest hcall
    obtain ⟨answer, hanswer, hgoes⟩ := hjob k request hrequest
    unfold toolCall? at hcall
    obtain ⟨error, hprepare, -⟩ | ⟨message, hprepare, -⟩ |
      ⟨g, given, outcome, hprepare, hacts, rfl⟩ := toolJob_goes hgoes
    · rw [hprepare] at hcall
      contradiction
    · rw [hprepare] at hcall
      contradiction
    · rw [hprepare] at hcall
      obtain ⟨rfl, rfl⟩ := Prod.mk.inj (Option.some.inj hcall)
      exact ⟨outcome, hacts, hanswer⟩
  · intro k request hrequest hnone
    obtain ⟨answer, hanswer, hgoes⟩ := hjob k request hrequest
    unfold toolCall? at hnone
    obtain ⟨error, hprepare, rfl, hacts⟩ | ⟨message, hprepare, rfl, hacts⟩ |
      ⟨g, given, outcome, hprepare, -⟩ := toolJob_goes hgoes
    · exact ⟨hacts, Or.inr ⟨error, hprepare, hanswer⟩⟩
    · exact ⟨hacts, Or.inl ⟨message, hprepare, hanswer⟩⟩
    · rw [hprepare] at hnone
      contradiction

/-- A request that is answered is answered under its id, whatever has happened meanwhile. -/
theorem Processed.answered {moves : List (Move σ)}
    (h : Processed e invoke arguments requests s answers s' moves) :
    List.Forall₂ (fun answer request => ∀ message, answer = .ok message → message.Answers request)
      answers requests := by
  refine List.forall₂_iff_get.mpr ⟨h.length, fun k hk hk' message hmessage => ?_⟩
  have hanswer : answers[k]? = some (.ok message) := by
    rw [List.getElem?_eq_getElem hk]
    exact congrArg some hmessage
  have hrequest : requests[k]? = some (requests.get ⟨k, hk'⟩) := List.getElem?_eq_getElem hk'
  -- What is known of the request does not depend on where it stands.
  generalize requests.get ⟨k, hk'⟩ = request at hrequest ⊢
  cases hcall : e.toolCall? arguments request with
  | none =>
      obtain ⟨-, ⟨given, hprepare, hgiven⟩ | ⟨error, -, herror⟩⟩ :=
        h.noCall k request hrequest hcall
      · rw [hanswer] at hgiven
        injection hgiven with hgiven
        injection hgiven with hgiven
        rw [hgiven]
        exact prepareTool_answers hprepare
      · rw [hanswer] at herror
        injection herror with herror
        contradiction
  | some call =>
      obtain ⟨f, table⟩ := call
      obtain ⟨outcome, -, hgiven⟩ := h.call k request f table hrequest hcall
      rw [hanswer] at hgiven
      cases outcome with
      | error error =>
          injection hgiven with hgiven
          contradiction
      | ok outcome =>
          injection hgiven with hgiven
          injection hgiven with hgiven
          rw [hgiven]
          exact ⟨rfl, rfl⟩

end Round

/-! ## §3. The history. -/

/-- **All or nothing.**  If all outcomes are messages, these join the history, one for each request,
under its id and in the order of the requests; if not, the first failure is the outcome, and the
history is as it was. -/
def AllOrNothing (history : History) (requests : List ToolCall)
    (answers : List (Except EngineError Message)) (outcome : Except EngineError Unit)
    (final : History) : Prop :=
  (∃ messages, answers = messages.map .ok ∧ List.Forall₂ Message.Answers messages requests ∧
      outcome = .ok () ∧ final = history ++ messages) ∨
    ∃ (front : List Message) (error : EngineError) (back : List (Except EngineError Message)),
      answers = front.map .ok ++ .error error :: back ∧ outcome = .error error ∧ final = history

theorem allOrNothing_joinAnswers (history : History) {requests : List ToolCall}
    {answers : List (Except EngineError Message)}
    (h : List.Forall₂
      (fun answer request => ∀ message, answer = .ok message → message.Answers request)
      answers requests) :
    AllOrNothing history requests answers (joinAnswers history answers).1
      (joinAnswers history answers).2 := by
  unfold joinAnswers
  obtain ⟨messages, rfl, hall⟩ | ⟨front, error, back, rfl, hfirst⟩ := collect_cases answers
  · rw [hall]
    refine Or.inl ⟨messages, rfl, ?_, rfl, rfl⟩
    exact (List.forall₂_map_left_iff.mp h).imp fun message request hanswer => hanswer message rfl
  · rw [hfirst]
    exact Or.inr ⟨front, error, back, rfl, rfl, rfl⟩

/-- The jobs of requests come to an end if the calls of registered functions do. -/
theorem ends_toolJob {invoke : Starter σ Outcome}
    (h : ∀ f ∈ e.registry.functions, ∀ given, (invoke f given).Ends) (arguments : Arguments)
    (request : ToolCall) : (e.toolJob invoke arguments request).Ends := by
  unfold toolJob
  cases hprepare : e.prepareTool arguments request with
  | error error => exact .done _
  | ok prepared =>
      cases prepared with
      | answer message => exact .done _
      | call f given => exact (h f (mem_functions_of_prepareTool hprepare) given).map _

/-- Calls that do not wait are answered alike under every schedule that brings them to an end. -/
theorem answerRound_atOnce {invoke : Caller σ Outcome} {history : History}
    {requests : List ToolCall}
    {ending ending' : (Except EngineError Unit × History) × σ × List Event}
    (h : e.answerRound (.atOnce invoke) (List.range requests.length) history requests arguments s
      = some ending) {schedule : List Nat}
    (hs : e.answerRound (.atOnce invoke) schedule history requests arguments s = some ending') :
    ending' = ending := by
  obtain ⟨⟨outcome, final⟩, s₁, first⟩ := ending
  obtain ⟨⟨outcome', final'⟩, s₂, second⟩ := ending'
  obtain ⟨answers, hinTurn, hends⟩ := answerRound_eq_some_iff.mp h
  obtain ⟨answers', hround, hends'⟩ := answerRound_eq_some_iff.mp hs
  have hjobs : ∀ job ∈ requests.map (e.toolJob (.atOnce invoke) arguments), job.AtOnce := by
    intro job hjob
    obtain ⟨request, -, rfl⟩ := List.mem_map.mp hjob
    exact atOnce_toolJob invoke arguments request
  have hsame := Round.ofJobs_atOnce hjobs
    ((congrFun (resolveEach_eq invoke arguments requests) s).symm.trans hinTurn) hround
  obtain ⟨rfl, hrest⟩ := Prod.mk.inj hsame
  obtain ⟨rfl, rfl⟩ := Prod.mk.inj hrest
  rw [hends, hends']

/-- **Tool calls are answered all or not at all.**  However calls are invoked, whether and on what
they wait, and whatever the schedule lets go on first: when a round is over, each request was
processed once and in the order of the requests, whatever became of the others, and the history has
the messages of all or of none.  What a request calls is called with what the model gives written
over its own copy of the arguments.  If the acts of calls come to an end, a fair schedule brings the
round to its end.

The calls of an engine whose functions, hooks and services answer at once do not wait.  If they
return, answering returns.  They are carried out in turn, under any schedule, and the trace of a
round is one call for each request that comes to one, in their order. -/
theorem answerTools_whole (e : Engine σ) (history : History) (requests : List ToolCall)
    (arguments : Arguments) (s : σ) :
    (∀ (invoke : Starter σ Outcome) (schedule : List Nat) outcome final s' events,
      e.answerRound invoke schedule history requests arguments s
          = some ((outcome, final), s', events) →
      ∃ (answers : List (Except EngineError Message)) (moves : List (Move σ)),
        events = moves.flatMap Move.events ∧
        Processed e invoke arguments requests s answers s' moves ∧
        AllOrNothing history requests answers outcome final) ∧
    (∀ request f table, e.toolCall? arguments request = some (f, table) →
      ∃ given, request.readArguments = .ok given ∧
        e.registry.resolveTool request.name = .ok f ∧ table = arguments.insertAll given) ∧
    (∀ (invoke : Starter σ Outcome) (schedule : Nat → Nat),
      (∀ f ∈ e.registry.functions, ∀ given, (invoke f given).Ends) →
      (∀ k < requests.length, ∀ n, ∃ m ≥ n, schedule m = k) →
      ∃ n, (e.answerRound invoke ((List.range n).map schedule) history requests arguments
        s).isSome) ∧
    ∀ depth,
      ((∀ f ∈ e.registry.functions, ∀ given s₁, (e.caller depth f given s₁).isSome) →
        (e.answerTools depth history requests arguments s).isSome) ∧
      ∀ outcome final s' events,
        e.answerTools depth history requests arguments s = some ((outcome, final), s', events) →
        (∃ answers : List (Except EngineError Message),
          Exec.InTurn (e.resolveTool (e.caller depth) arguments) requests s answers s' events ∧
          List.Forall₂ Event.Calls events (requests.filterMap (e.toolCall? arguments)) ∧
          AllOrNothing history requests answers outcome final) ∧
        ∀ schedule ending,
          e.answerRound (.atOnce (e.caller depth)) schedule history requests arguments s
            = some ending → ending = ((outcome, final), s', events) := by
  refine ⟨?_, fun _ _ _ => toolCall?_eq_some, ?_, fun depth => ⟨?_, ?_⟩⟩
  -- A round that is over, under any schedule.
  · intro invoke schedule outcome final s' events h
    obtain ⟨answers, hround, hends⟩ := answerRound_eq_some_iff.mp h
    obtain ⟨moves, rfl, hcarried⟩ := Round.carriedOut_of_ofJobs hround
    have hprocessed := processed_of_carriedOut hcarried
    refine ⟨answers, moves, rfl, hprocessed, ?_⟩
    have hjoined := allOrNothing_joinAnswers history hprocessed.answered
    rw [← hends] at hjoined
    exact hjoined
  -- A fair schedule.
  · intro invoke schedule hends hfair
    have hjobs : ∀ job ∈ requests.map (e.toolJob invoke arguments), job.Ends := by
      intro job hjob
      obtain ⟨request, -, rfl⟩ := List.mem_map.mp hjob
      exact ends_toolJob hends arguments request
    obtain ⟨n, hn⟩ := Round.ofJobs_fair hjobs (by rw [List.length_map]; exact hfair) s
    obtain ⟨⟨answers, s', events⟩, hround⟩ := Option.isSome_iff_exists.mp hn
    exact ⟨n, Option.isSome_iff_exists.mpr
      ⟨_, answerRound_eq_some_iff.mpr ⟨answers, hround, rfl⟩⟩⟩
  -- Calls that do not wait, and return.
  · intro hcalls
    have hreturns : (e.resolveTools (e.caller depth) arguments requests s).isSome :=
      (asking_resolveTools arguments requests s).returns hcalls
    obtain ⟨⟨collected, s₁, first⟩, hresolve⟩ := Option.isSome_iff_exists.mp hreturns
    obtain ⟨answers, s₂, before, last, heach, -⟩ := Exec.bind_eq_some_iff.mp hresolve
    exact Option.isSome_iff_exists.mpr ⟨_, answerTools_eq_some_iff.mpr ⟨answers, heach, rfl⟩⟩
  · intro outcome final s' events h
    refine ⟨?_, fun schedule ending => answerRound_atOnce h⟩
    obtain ⟨answers, heach, hends⟩ := answerTools_eq_some_iff.mp h
    have hturn := inTurn_resolveEach heach
    refine ⟨answers, hturn, hturn.calls fun _ _ _ _ _ => calls_resolveTool, ?_⟩
    have hjoined := allOrNothing_joinAnswers history (resolveEach_answers heach)
    rw [← hends] at hjoined
    exact hjoined

/-- A till that counts what is rung up. -/
def ring : Function Nat :=
  { descriptor := { name := "ring", collection := "shop" }
    body := .native fun _ n => (.ok (.number (.integer n)), n + 1) }

/-- A scale that does not work. -/
def weigh : Function Nat :=
  .ofPure { name := "weigh", collection := "shop" } fun _ => .error (.failed "no battery")

/-- An engine that has both. -/
def shop : Engine Nat :=
  { registry := ⟨.ofList [("shop",
      { name := "shop", functions := .ofList [("ring", ring), ("weigh", weigh)] })]⟩ }

/-- Two things to ring up and between them one to weigh. -/
def purchase : List ToolCall :=
  [⟨"a", "shop-ring", ""⟩, ⟨"b", "shop-weigh", ""⟩, ⟨"c", "shop-ring", ""⟩]

/-- The second request fails, and the third is carried out all the same. -/
theorem answerTools_shop :
    ∃ events, shop.answerTools 1 [.user "apples"] purchase {} 0
      = some ((.error (.execution "shop.weigh" (.failed "no battery")), [.user "apples"]), 2,
          events) :=
  ⟨_, rfl⟩

/-- Calls that wait for each other: each counts itself, waits until three are there, and counts
itself out. -/
def meet : Starter Nat Outcome := fun f _ =>
  .wait (Exec.act fun n => ((), n + 1)) fun _ =>
    .wait (fun n => if 3 ≤ n then some (n - 3, n + 1, []) else none) fun left =>
      .done (.ok (.completed { function := f.descriptor, value := .number (.integer left) }))

/-- Three things to ring up. -/
def basket : List ToolCall :=
  [⟨"a", "shop-ring", ""⟩, ⟨"b", "shop-ring", ""⟩, ⟨"c", "shop-ring", ""⟩]

/-- All three are there before one of them leaves, and the last that came leaves first. -/
theorem answerRound_meet :
    shop.answerRound meet [0, 1, 2, 2, 0, 1] [.user "apples"] basket {} 0
      = some ((.ok (), [.user "apples", .toolResult "a" "shop-ring" "1",
          .toolResult "b" "shop-ring" "2", .toolResult "c" "shop-ring" "0"]), 6, []) := by
  rfl

/-- None of them leaves if each is to be done before the next one comes. -/
example : (shop.answerRound meet [0, 0, 1, 1, 2, 2] [.user "apples"] basket {} 0).isNone := by
  decide +kernel

theorem answerTools_whole_shop :
    (∃ (answers : List (Except EngineError Message)) (moves : List (Move Nat)),
      Processed shop meet {} basket 0 answers 6 moves ∧
      AllOrNothing [.user "apples"] basket answers (.ok ())
        [.user "apples", .toolResult "a" "shop-ring" "1", .toolResult "b" "shop-ring" "2",
          .toolResult "c" "shop-ring" "0"]) ∧
    shop.toolCall? {} ⟨"a", "shop-ring", ""⟩ = some (ring, {}) ∧
    (∃ n, (shop.answerRound (.atOnce (shop.caller 1)) ((List.range n).map (· % 3))
      [.user "apples"] purchase {} 0).isSome) ∧
    (shop.answerTools 1 [.user "apples"] purchase {} 0).isSome ∧
    ∃ (events : List Event) (front : List Message) (back : List (Except EngineError Message)),
      shop.answerTools 1 [.user "apples"] purchase {} 0
        = some ((.error (.execution "shop.weigh" (.failed "no battery")), [.user "apples"]), 2,
            events) ∧
      Exec.InTurn (shop.resolveTool (shop.caller 1) {}) purchase 0
        (front.map .ok ++ .error (.execution "shop.weigh" (.failed "no battery")) :: back) 2
        events ∧
      List.Forall₂ Event.Calls events [(ring, {}), (weigh, {}), (ring, {})] := by
  have hreturns : ∀ f ∈ shop.registry.functions, ∀ given n, (shop.caller 1 f given n).isSome := by
    have hfunctions : shop.registry.functions = [ring, weigh] := rfl
    rw [hfunctions]
    simp only [List.forall_mem_cons]
    exact ⟨fun _ _ => rfl, fun _ _ => rfl, nofun⟩
  obtain ⟨hmeet, -, -, -⟩ := answerTools_whole shop [.user "apples"] basket {} 0
  obtain ⟨answers, moves, -, hprocessed, hall⟩ := hmeet meet _ _ _ _ _ answerRound_meet
  obtain ⟨-, -, hfair, honce⟩ := answerTools_whole shop [.user "apples"] purchase {} 0
  have hover := hfair (.atOnce (shop.caller 1)) (· % 3)
    (fun f hf given => .wait (hreturns f hf given) fun _ => .done _)
    (fun k hk n => ⟨3 * n + k, by omega, by
      have hk : k < 3 := hk
      show (3 * n + k) % 3 = k
      omega⟩)
  obtain ⟨hreturned, hwhole⟩ := honce 1
  obtain ⟨events, hrun⟩ := answerTools_shop
  obtain ⟨⟨outcomes, hturn, hcalls, hends⟩, -⟩ := hwhole _ _ 2 events hrun
  refine ⟨⟨answers, moves, hprocessed, hall⟩, rfl, hover, hreturned hreturns, ?_⟩
  obtain ⟨messages, -, -, hok, -⟩ | ⟨front, error, back, rfl, herror, -⟩ := hends
  · contradiction
  · injection herror with herror
    subst herror
    exact ⟨events, front, back, hrun, hturn, hcalls⟩

end PromptEngine.Engine
