/-
  PromptEngine.Proofs.Engine.Streaming — complete and streamed replies lead to one conversation.

  A service that streams each complete message as one fragment gives a streamed conversation the
  same replies, but a fragment keeps only the plain part of a message: role, text, tool calls and
  finish reason (`Message.plain`).  §3 shows that for one reply, however many messages the service
  gave and whatever ended them.  If the service looks at nothing else in a history, the next
  request is answered alike, so the conversations keep step, round by round.

  Main result: `converse_streamed`.
-/
import PromptEngine.Proofs.Engine.Simulation

namespace PromptEngine

variable {σ : Type}

/-! ## §1. The plain part of a conversation. -/

/-- What a fragment keeps of a message; an absent content becomes empty. -/
def Message.plain (m : Message) : Message :=
  { role := m.role
    content := some m.text
    toolCalls := m.toolCalls
    finishReason := m.finishReason }

/-- The same request for a conversation of which only the plain part is known. -/
def ChatRequest.plain (r : ChatRequest) : ChatRequest :=
  { r with history := r.history.map Message.plain }

/-- The same exchange with the plain part of its reply; the answers stay as they are. -/
def Exchange.plain (x : Exchange) : Exchange :=
  { x with reply := x.reply.plain }

/-- Two conversations that began with the same history: the second one has the plain part of each
reply that joined it since, and the same answers.  The last reply may be without answers. -/
def PlainReplies (history : History) (last : Option Message) (h h' : History) : Prop :=
  ∃ exchanges : List Exchange, (∀ x ∈ exchanges, x.Complete) ∧
    h = transcript history exchanges ++ last.toList ∧
    h' = transcript history (exchanges.map Exchange.plain) ++ (last.map Message.plain).toList

namespace PlainReplies

variable {history h h' : History} {last : Option Message}

theorem start (history : History) : PlainReplies history none history history :=
  ⟨[], List.forall_mem_nil _, by simp, by simp⟩

theorem reply (hreplies : PlainReplies history none h h') (reply : Message) :
    PlainReplies history (some reply) (h ++ [reply]) (h' ++ [reply.plain]) := by
  obtain ⟨exchanges, hcomplete, rfl, rfl⟩ := hreplies
  exact ⟨exchanges, hcomplete, by simp, by simp⟩

theorem exchange (hreplies : PlainReplies history none h h') {x : Exchange} (hx : x.Complete) :
    PlainReplies history none (h ++ [x.reply] ++ x.results)
      (h' ++ [x.reply.plain] ++ x.results) := by
  obtain ⟨exchanges, hcomplete, rfl, rfl⟩ := hreplies
  refine ⟨exchanges ++ [x], ?_, ?_, ?_⟩
  · exact List.forall_mem_append.mpr ⟨hcomplete, List.forall_mem_singleton.mpr hx⟩
  · simp [transcript, Exchange.messages]
  · simp [transcript, Exchange.messages, Exchange.plain]

/-- Their plain parts are the same. -/
theorem map_plain (hreplies : PlainReplies history last h h') :
    h.map Message.plain = h'.map Message.plain := by
  obtain ⟨exchanges, -, rfl, rfl⟩ := hreplies
  have hmessages : ∀ x : Exchange,
      x.plain.messages.map Message.plain = x.messages.map Message.plain := fun _ => rfl
  have hlast : (last.map Message.plain).toList.map Message.plain
      = last.toList.map Message.plain := by
    cases last <;> rfl
  simp only [transcript, List.map_append, List.flatMap_map, List.map_flatMap, hmessages, hlast]

end PlainReplies

/-! ## §2. What is seen of a trace. -/

namespace Event

/-- An event without what only streaming adds: fragments are left out, and of the history of a
request the plain part is seen.  What happens inside an invocation is seen in full. -/
def sketch : Event → Option Event
  | .fragment _ => none
  | .request service history settings tools =>
    some (.request service (history.map Message.plain) settings tools)
  | event => some event

/-- The invocation that an event is. -/
def invocation? : Event → Option (Descriptor × Arguments × List Event)
  | .run d arguments inner => some (d, arguments, inner)
  | _ => none

theorem invocation?_sketch (event : Event) :
    event.sketch.bind invocation? = event.invocation? := by
  cases event <;> rfl

theorem request?_sketch (event : Event) :
    event.sketch.bind request? = event.request?.map fun r => (r.1, r.2.plain) := by
  cases event <;> rfl

end Event

/-- The sketch of a trace. -/
def sketch (events : List Event) : List Event :=
  events.filterMap Event.sketch

/-- The invocations at the top level of a trace, each with what happened inside. -/
def invocations (events : List Event) : List (Descriptor × Arguments × List Event) :=
  events.filterMap Event.invocation?

/-- Invocations are seen in a sketch. -/
theorem invocations_sketch (events : List Event) :
    invocations (sketch events) = invocations events := by
  simp only [invocations, sketch, List.filterMap_filterMap, Event.invocation?_sketch]

/-- Requests are seen in a sketch, with the plain part of their history. -/
theorem requests_sketch (events : List Event) :
    requests (sketch events) = (requests events).map fun r => (r.1, r.2.plain) := by
  simp only [requests, sketch, List.filterMap_filterMap, List.map_filterMap,
    Event.request?_sketch]

/-- Traces correspond that have the same sketch. -/
def Correspondence.sketched : Correspondence where
  holds events events' := sketch events = sketch events'
  nil := rfl
  append := by
    intro a a' b b' ha hb
    unfold sketch at ha hb ⊢
    rw [List.filterMap_append, List.filterMap_append, ha, hb]

/-! ## §3. One reply. -/

namespace Fragment

/-- Whole tool calls come back from their parts. -/
theorem map_toToolCall_wholeCalls (index : Nat) (calls : List ToolCall) :
    (wholeCalls index calls).map ToolCallDelta.toToolCall = calls := by
  induction calls generalizing index with
  | nil => rfl
  | cons call rest ih =>
      rw [wholeCalls, List.map_cons, ih]
      rfl

/-- A message that was one fragment comes back as its plain part. -/
theorem toMessage_ofMessage (choice : Nat) (m : Message) :
    (ofMessage choice m).toMessage = m.plain := by
  unfold ofMessage toMessage Message.plain
  rw [map_toToolCall_wholeCalls]
  rfl

end Fragment

/-- A fragment of a later choice goes behind what an earlier one has. -/
theorem Accumulator.pushTo_behind {f sum : Fragment} {choice : Nat} (h : choice < f.choice)
    (rest : List (Nat × Fragment)) :
    pushTo f ((choice, sum) :: rest) = (choice, sum) :: pushTo f rest := by
  rw [pushTo, if_neg (Nat.not_lt_of_lt h), if_neg (Nat.ne_of_gt h)]

namespace Engine

/-- The messages behind the first one come as fragments of later choices.  They neither end the
reply nor change what the first choice has. -/
theorem takeIn_laterFragments {f : Fragment} (messages : List Message) (choice : Nat)
    (hchoice : 0 < choice) (rest : List (Nat × Fragment)) (s : σ) :
    ∃ rest' events, takeIn ⟨(0, f) :: rest⟩ (Service.wholeFragments choice messages) s
        = some (.ok ⟨(0, f) :: rest'⟩, s, events) ∧ sketch events = [] := by
  induction messages generalizing choice rest with
  | nil => exact ⟨rest, [], rfl, rfl⟩
  | cons m messages ih =>
      have hbehind : Accumulator.push ⟨(0, f) :: rest⟩ (.ofMessage choice m)
          = ⟨(0, f) :: Accumulator.pushTo (.ofMessage choice m) rest⟩ :=
        congrArg Accumulator.mk (Accumulator.pushTo_behind hchoice rest)
      have hopen : endsReply ⟨(0, f) :: Accumulator.pushTo (.ofMessage choice m) rest⟩
          (.ofMessage choice m) ≠ true := by
        have hfirst : (0 == choice) = false := beq_false_of_ne (Nat.ne_of_lt hchoice)
        simp [endsReply, Accumulator.first?, Fragment.ofMessage, hfirst]
      obtain ⟨rest', events, hmore, hsketch⟩ :=
        ih (choice + 1) (Nat.succ_pos choice) (Accumulator.pushTo (.ofMessage choice m) rest)
      refine ⟨rest', .fragment (.ofMessage choice m) :: events, ?_, hsketch⟩
      rw [Service.wholeFragments, takeIn, Exec.emit_bind, hbehind, if_neg hopen, hmore]
      rfl

/-- **One reply.**  Of messages that each are one fragment, the plain part of the first one is the
reply, whether it ends the stream or the stream goes on to its end; without messages there is
none. -/
theorem takeIn_wholeFragments (service : Service σ) (messages : List Message) (s : σ) :
    ∃ sum events, takeIn {} (Service.wholeFragments 0 messages) s = some (.ok sum, s, events) ∧
      firstReply service sum.messages = (firstReply service messages).map Message.plain ∧
      sketch events = [] := by
  cases messages with
  | nil => exact ⟨{}, [], rfl, rfl, rfl⟩
  | cons m messages =>
      have hfirst : ∀ rest, firstReply service (Accumulator.messages ⟨(0, .ofMessage 0 m) :: rest⟩)
          = .ok m.plain := by
        intro rest
        rw [← Fragment.toMessage_ofMessage 0 m]
        rfl
      rw [Service.wholeFragments, takeIn, Exec.emit_bind]
      -- The first message ends the reply, or the others are taken in behind it.
      by_cases hend : endsReply (Accumulator.push {} (.ofMessage 0 m)) (.ofMessage 0 m) = true
      · exact ⟨_, [.fragment (.ofMessage 0 m)], by rw [if_pos hend]; rfl, hfirst [], rfl⟩
      · obtain ⟨rest, events, hmore, hsketch⟩ :=
          takeIn_laterFragments messages 1 Nat.zero_lt_one [] s
        refine ⟨_, .fragment (.ofMessage 0 m) :: events, ?_, hfirst rest, hsketch⟩
        rw [if_neg hend]
        show Exec.behind _ (takeIn ⟨[(0, .ofMessage 0 m)]⟩ _ s) = _
        rw [hmore]
        rfl

/-! ## §4. Conversations. -/

/-- How a chat service answers, if it looks at nothing but the plain part of a history and does not
tell corresponding states apart. -/
def AnswersPlain (S : σ → σ → Prop)
    (complete : ChatRequest → σ → Except String (List Message) × σ) : Prop :=
  ∀ request request', request.plain = request'.plain → ∀ s t, S s t →
    (complete request s).1 = (complete request' t).1 ∧
      S (complete request s).2 (complete request' t).2

section Streamed

variable {S : σ → σ → Prop} {e : Engine σ} {id : String}
  {complete : ChatRequest → σ → Except String (List Message) × σ}
  (hcomplete : AnswersPlain S complete)

include hcomplete in
/-- Asked for a streamed reply, the service gives the plain part of its complete reply. -/
theorem askFor_streamed (settings : Settings) {h h' : History}
    (hplain : h.map Message.plain = h'.map Message.plain) :
    (e.askFor false (.ofComplete id complete) settings h).InStep S .sketched
      (fun outcome outcome' => outcome' = outcome.map Message.plain)
      (e.askFor true (.ofComplete id complete) settings h') := by
  have hrequest : Correspondence.sketched.holds
      [.request id h settings e.registry.descriptors]
      [.request id h' settings e.registry.descriptors] := by
    show [Event.request id (h.map Message.plain) settings e.registry.descriptors] = _
    rw [hplain]
    rfl
  have hasked := hcomplete ⟨h, settings, e.registry.descriptors⟩
    ⟨h', settings, e.registry.descriptors⟩ (by unfold ChatRequest.plain; rw [hplain])
  refine (Exec.inStep_emit hrequest).bind fun _ _ _ => ?_
  -- What the service answers is the same, once as messages and once as their fragments.
  have hgot : (Exec.act (complete ⟨h, settings, e.registry.descriptors⟩)).InStep S .sketched
      (fun reply fragments => fragments = reply.map (Service.wholeFragments 0))
      (Exec.act ((Service.ofComplete id complete).stream ⟨h', settings, e.registry.descriptors⟩)) :=
    Exec.inStep_act fun s t hs =>
      ⟨congrArg (Except.map (Service.wholeFragments 0)) (hasked s t hs).1.symm, (hasked s t hs).2⟩
  refine hgot.bind ?_
  rintro reply _ rfl
  cases reply with
  | error failure => exact Exec.inStep_pure rfl
  | ok messages =>
      intro s t hs
      obtain ⟨sum, events, htake, hreply, hsketch⟩ :=
        takeIn_wholeFragments (.ofComplete id complete) messages t
      show Option.Rel _ (some (firstReply _ messages, s, [])) ((takeIn {} _ >>= _) t)
      rw [Exec.bind_of_some htake]
      refine .some ⟨hreply, hs, ?_⟩
      show sketch [] = sketch (events ++ [])
      rw [List.append_nil]
      exact hsketch.symm

/-- What a conversation with complete replies and one with streamed replies have in common that
began with the same history. -/
structure Alike (S : σ → σ → Prop) (history : History)
    (run run' : (Except EngineError Message × History) × σ × List Event) : Prop where
  /-- Both fail with the same error, or both succeed, the second with the plain part. -/
  outcome : run'.1.1 = run.1.1.map Message.plain
  histories : ∃ last, PlainReplies history last run.1.2 run'.1.2
  length : run'.1.2.length = run.1.2.length
  states : S run.2.1 run'.2.1
  /-- The same functions were called with the same arguments, and the same happened inside. -/
  calls : invocations run'.2.2 = invocations run.2.2
  /-- As many requests were made, with the same plain histories. -/
  requests : (requests run'.2.2).map (fun r => (r.1, r.2.plain))
    = (requests run.2.2).map fun r => (r.1, r.2.plain)
  /-- Calls and requests came in the same order. -/
  order : sketch run'.2.2 = sketch run.2.2

include hcomplete in
/-- **Complete and streamed replies lead to one conversation.**  Let a service stream each complete
message as one fragment and answer by the plain part of a history, and let no part of the engine
tell corresponding states apart (with equality for `S`, none does).  Then of the two conversations
with the service, begun with the same history and in corresponding states, both return or neither
does.  They fail with the same error or both succeed, make the same requests and the same calls,
and leave the same history but for what the streamed replies have lost. -/
theorem converse_streamed (he : e.Respects S) (depth : Nat) (o : ConversationOptions)
    (settings : Settings) (arguments : Arguments) (history : History) {s t : σ} (hs : S s t) :
    Option.Rel (Alike S history)
      (e.converse (e.caller depth) o false (.ofComplete id complete) settings arguments history s)
      (e.converse (e.caller depth) o true (.ofComplete id complete) settings arguments history
        t) := by
  -- The invocations in a conversation have the same traces, so their sketches are the same.
  have hresolve : ∀ calls,
      (e.resolveTools (e.caller depth) arguments calls).Steady S .sketched := by
    intro calls
    exact Exec.InStep.mono (steady_resolveTools he (steady_caller he depth) arguments calls)
      (fun _ _ _ _ _ _ h => h) (fun _ _ h => congrArg sketch h)
  -- A reply and its answers are an exchange, and the streamed reply is its plain part.
  have hnext : ∀ h h' reply messages, PlainReplies history none h h' →
      reply.hasToolCalls = true →
      (∃ s s' events, e.resolveTools (e.caller depth) arguments reply.toolCalls s
        = some (.ok messages, s', events)) →
      PlainReplies history none (h ++ [reply] ++ messages) (h' ++ [reply.plain] ++ messages) := by
    rintro h h' reply messages hreplies hrequests ⟨s, s', events, hrun⟩
    have hexchange : Exchange.Complete ⟨reply, messages⟩ := ⟨hrequests, resolveTools_answers hrun⟩
    exact hreplies.exchange hexchange
  have hask : ∀ h h', PlainReplies history none h h' →
      (e.askFor false (.ofComplete id complete) settings h).InStep S .sketched
        (fun outcome outcome' => outcome' = outcome.map Message.plain)
        (e.askFor true (.ofComplete id complete) settings h') :=
    fun h h' hreplies => askFor_streamed hcomplete settings hreplies.map_plain
  have hrounds := leadRounds_inStep (PlainReplies history none)
    (fun h h' => ∃ last, PlainReplies history last h h') o.autoInvoke
    (Service.ofComplete id complete).noReply hask (fun _ => rfl) hresolve
    (fun h h' hreplies => ⟨none, hreplies⟩)
    (fun h h' reply hreplies => ⟨some reply, hreplies.reply reply⟩) hnext o.rounds
    (PlainReplies.start history)
  obtain ⟨hl, hr⟩ | ⟨⟨outcome, h⟩, s', events, ⟨outcome', h'⟩, t', events', hl, hr,
    ⟨houtcome, last, hreplies⟩, hs', hsketch⟩ := hrounds.ends hs
  · rw [converse_eq_leadRounds, converse_eq_leadRounds, hl, hr]
    exact .none
  · rw [converse_eq_leadRounds, converse_eq_leadRounds, hl, hr]
    refine .some ⟨houtcome, ⟨last, hreplies⟩, ?_, hs', ?_, ?_, hsketch.symm⟩
    · simpa using (congrArg List.length hreplies.map_plain).symm
    · rw [← invocations_sketch, ← hsketch, invocations_sketch]
    · rw [← requests_sketch, ← hsketch, requests_sketch]

end Streamed

/-- States that agree in a number, whatever was noted. -/
def SameCount (a b : Nat × List History) : Prop :=
  a.1 = b.1

/-- A function that counts its calls. -/
def stamp : Function (Nat × List History) :=
  { descriptor := { name := "stamp", collection := "desk" }
    body := .native fun _ s => (.ok .null, (s.1 + 1, s.2)) }

/-- An engine that can stamp. -/
def office : Engine (Nat × List History) :=
  { registry := ⟨.ofList [("desk", { name := "desk", functions := .ofList [("stamp", stamp)] })]⟩ }

/-- How a service answers that notes all it is sent.  It asks for a stamp, in a message with more
than its plain part, and then gives two messages, the first of which does not end the stream. -/
def scribe (request : ChatRequest) (s : Nat × List History) :
    Except String (List Message) × (Nat × List History) :=
  if request.history.any (·.role = .tool) then
    (.ok [{ role := .assistant, finishReason := some .length }, .assistant "other"],
      (s.1, s.2 ++ [request.history]))
  else
    (.ok [{ Message.toolRequests [⟨"a", "desk-stamp", ""⟩] with name := some "scribe" }],
      (s.1, s.2 ++ [request.history]))

theorem converse_streamed_office :
    office.Respects SameCount ∧ AnswersPlain SameCount scribe ∧
      ∃ run run', Alike SameCount [.user "stamp"] run run' ∧
        office.converse (office.caller 1) ⟨true, 3⟩ false (.ofComplete "scribe" scribe) {} {}
          [.user "stamp"] (0, []) = some run ∧
        office.converse (office.caller 1) ⟨true, 3⟩ true (.ofComplete "scribe" scribe) {} {}
          [.user "stamp"] (0, []) = some run' ∧
        run'.1.2.length = 4 ∧ run'.2.1.1 = 1 := by
  have hoffice : office.Respects SameCount := by
    have hfunctions : office.registry.functions = [stamp] := rfl
    refine ⟨fun f hf => ?_, fun _ h => absurd h List.not_mem_nil,
      fun _ h => absurd h List.not_mem_nil⟩
    rw [hfunctions] at hf
    rw [List.mem_singleton.mp hf]
    exact fun arguments s t hs => ⟨rfl, congrArg (· + 1) hs⟩
  -- The answer depends on the roles and the plain messages of a history, not on their metadata.
  have hscribe : AnswersPlain SameCount scribe := by
    intro request request' hplain s t hs
    have hroles : ∀ h : History,
        h.any (·.role = .tool) = (h.map Message.plain).any (·.role = .tool) := by
      intro h
      rw [List.any_map]
      rfl
    have hhistory : request.history.map Message.plain = request'.history.map Message.plain :=
      congrArg ChatRequest.history hplain
    unfold scribe
    rw [hroles request.history, hroles request'.history, hhistory]
    split
    · exact ⟨rfl, hs⟩
    · exact ⟨rfl, hs⟩
  have hstamped : (office.converse (office.caller 1) ⟨true, 3⟩ false (.ofComplete "scribe" scribe)
      {} {} [.user "stamp"] (0, [])).map (fun run => (run.1.2.length, run.2.1.1)) = some (4, 1) := by
    decide +kernel
  have halike : Option.Rel (Alike SameCount [.user "stamp"])
      (office.converse (office.caller 1) ⟨true, 3⟩ false (.ofComplete "scribe" scribe) {} {}
        [.user "stamp"] (0, []))
      (office.converse (office.caller 1) ⟨true, 3⟩ true (.ofComplete "scribe" scribe) {} {}
        [.user "stamp"] (0, [])) :=
    converse_streamed hscribe hoffice 1 ⟨true, 3⟩ {} {} [.user "stamp"] rfl
  obtain ⟨run, hrun, hcounts⟩ := Option.map_eq_some_iff.mp hstamped
  rw [hrun] at halike
  generalize office.converse (office.caller 1) ⟨true, 3⟩ true _ {} {} _ _ = streamed at halike ⊢
  cases halike with
  | some h =>
      obtain ⟨hlength, hcount⟩ := Prod.mk.inj hcounts
      exact ⟨hoffice, hscribe, run, _, h, hrun, rfl, h.length.trans hlength,
        h.states.symm.trans hcount⟩

end Engine

end PromptEngine
