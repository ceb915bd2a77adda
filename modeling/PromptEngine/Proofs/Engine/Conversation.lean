/-
  PromptEngine.Proofs.Engine.Conversation — the shape of a conversation with tool calls.

  A conversation that comes to an end is a row of exchanges, each a reply that requests tool calls
  and one tool message for each request, and then a last round.  The last round either gives the
  reply of the conversation, or fails to get a reply, or fails to answer the requests of one.  The
  proof says once what a single round can do (`leadRounds_step`) and follows the rounds by
  induction (`leadRounds_run`).  Main result: `converse_shape`.
-/
import Mathlib.Data.List.Forall2
import PromptEngine.Engine.Invoke
import PromptEngine.Proofs.Engine.ToolJobs

namespace PromptEngine

/-! ## §1. Exchanges. -/

/-- A tool message answers a request if it carries the request's id. -/
def Message.Answers (m : Message) (request : ToolCall) : Prop :=
  m.role = .tool ∧ m.toolCallId = some request.id

/-- A reply and the messages that answer its requests. -/
structure Exchange where
  reply : Message
  results : List Message

namespace Exchange

/-- The messages of an exchange as they stand in the history. -/
def messages (x : Exchange) : History :=
  x.reply :: x.results

/-- There are requests, and each is answered by one message, in the order of the requests. -/
structure Complete (x : Exchange) : Prop where
  requests : x.reply.hasToolCalls = true
  answers : List.Forall₂ Message.Answers x.results x.reply.toolCalls

end Exchange

/-- A history with the messages of exchanges behind it. -/
def transcript (history : History) (exchanges : List Exchange) : History :=
  history ++ exchanges.flatMap Exchange.messages

@[simp]
theorem transcript_nil (history : History) : transcript history [] = history :=
  List.append_nil history

@[simp]
theorem transcript_cons (history : History) (x : Exchange) (xs : List Exchange) :
    transcript history (x :: xs) = transcript (history ++ x.messages) xs := by
  simp [transcript]

namespace Engine

variable {σ : Type}

/-! ## §2. What a single round can do. -/

section Rounds

variable {ask : History → Exec σ (Except EngineError Message)}
  {resolve : List ToolCall → Exec σ (Except EngineError (List Message))}
  {autoInvoke : Bool} {spent : EngineError} {remaining : Nat} {history : History} {s s' : σ}
  {result : Except EngineError Message × History} {events : List Event}

/-- An exchange is made: the reply is got, requests tool calls, and they are answered. -/
def Exchanging (ask : History → Exec σ (Except EngineError Message))
    (resolve : List ToolCall → Exec σ (Except EngineError (List Message))) (history : History)
    (s : σ) (x : Exchange) (s' : σ) (events : List Event) : Prop :=
  ∃ s₁ asked answered, ask history s = some (.ok x.reply, s₁, asked) ∧
    x.reply.hasToolCalls = true ∧
    resolve x.reply.toolCalls s₁ = some (.ok x.results, s', answered) ∧
    events = asked ++ answered

/-- Exchanges are made one after the other, each with the history that the earlier ones left. -/
inductive Exchanges (ask : History → Exec σ (Except EngineError Message))
    (resolve : List ToolCall → Exec σ (Except EngineError (List Message))) :
    History → σ → List Exchange → σ → List Event → Prop where
  | nil {history : History} {s : σ} : Exchanges ask resolve history s [] s []
  | cons {history : History} {s s₁ s' : σ} {x : Exchange} {xs : List Exchange}
      {first rest : List Event} :
      Exchanging ask resolve history s x s₁ first →
      Exchanges ask resolve (history ++ x.messages) s₁ xs s' rest →
      Exchanges ask resolve history s (x :: xs) s' (first ++ rest)

/-- The round that ends a conversation; `full` says that no round may follow it. -/
inductive LastRound (ask : History → Exec σ (Except EngineError Message))
    (resolve : List ToolCall → Exec σ (Except EngineError (List Message))) (autoInvoke : Bool)
    (full : Prop) (history : History) (s : σ) :
    Except EngineError Message × History → σ → List Event → Prop where
  /-- The reply is the outcome. -/
  | replied {reply : Message} {s' : σ} {events : List Event} :
      ask history s = some (.ok reply, s', events) →
      (reply.hasToolCalls = false ∨ autoInvoke = false ∨ full) →
      LastRound ask resolve autoInvoke full history s (.ok reply, history ++ [reply]) s' events
  /-- There was no reply. -/
  | unanswered {error : EngineError} {s' : σ} {events : List Event} :
      ask history s = some (.error error, s', events) →
      LastRound ask resolve autoInvoke full history s (.error error, history) s' events
  /-- The requests of the reply were to be answered and could not. -/
  | unresolved {error : EngineError} {reply : Message} {s₁ s' : σ} {asked answered : List Event} :
      ask history s = some (.ok reply, s₁, asked) → reply.hasToolCalls = true →
      autoInvoke = true → ¬ full →
      resolve reply.toolCalls s₁ = some (.error error, s', answered) →
      LastRound ask resolve autoInvoke full history s (.error error, history ++ [reply]) s'
        (asked ++ answered)

/-- **One round.**  It is the last one, or it is an exchange and the others follow. -/
theorem leadRounds_step
    (h : leadRounds ask resolve autoInvoke spent (remaining + 1) history s
      = some (result, s', events)) :
    LastRound ask resolve autoInvoke (remaining = 0) history s result s' events ∨
      ∃ x s₁ first rest, Exchanging ask resolve history s x s₁ first ∧ autoInvoke = true ∧
        remaining ≠ 0 ∧
        leadRounds ask resolve autoInvoke spent remaining (history ++ x.messages) s₁
          = some (result, s', rest) ∧
        events = first ++ rest := by
  unfold leadRounds at h
  obtain ⟨outcome, s₁, asked, rest, hask, h, rfl⟩ := Exec.bind_eq_some_iff.mp h
  cases outcome with
  | error error =>
      obtain ⟨rfl, rfl, rfl⟩ := Exec.pure_eq_some_iff.mp h
      rw [List.append_nil]
      exact Or.inl (.unanswered hask)
  | ok reply =>
      -- The reply is the last if it requests nothing, or nobody is to answer, or no round is left.
      by_cases hlast : (!reply.hasToolCalls || !autoInvoke || remaining == 0) = true
      · simp only [hlast, if_true] at h
        obtain ⟨rfl, rfl, rfl⟩ := Exec.pure_eq_some_iff.mp h
        rw [List.append_nil]
        refine Or.inl (.replied hask ?_)
        simpa [or_assoc] using hlast
      · simp only [hlast] at h
        obtain ⟨⟨hcalls, hauto⟩, hmore⟩ :
            (reply.hasToolCalls = true ∧ autoInvoke = true) ∧ remaining ≠ 0 := by
          simpa [not_or] using hlast
        obtain ⟨outcome, s₂, answered, more, hresolve, h, rfl⟩ := Exec.bind_eq_some_iff.mp h
        cases outcome with
        | error error =>
            obtain ⟨rfl, rfl, rfl⟩ := Exec.pure_eq_some_iff.mp h
            rw [List.append_nil]
            exact Or.inl (.unresolved hask hcalls hauto hmore hresolve)
        | ok messages =>
            refine Or.inr ⟨⟨reply, messages⟩, s₂, asked ++ answered, more,
              ⟨s₁, asked, answered, hask, hcalls, hresolve, rfl⟩, hauto, hmore, ?_, ?_⟩
            · have hhistory : history ++ [reply] ++ messages
                  = history ++ Exchange.messages ⟨reply, messages⟩ :=
                List.append_assoc history [reply] messages
              rw [← hhistory]
              exact h
            · rw [List.append_assoc]

/-- **All rounds.**  They are exchanges and a last round, and no more than there may be. -/
theorem leadRounds_run :
    ∀ (remaining : Nat) (history : History) (s : σ) (events : List Event),
      leadRounds ask resolve autoInvoke spent (remaining + 1) history s
        = some (result, s', events) →
      ∃ exchanges s₁ before after, Exchanges ask resolve history s exchanges s₁ before ∧
        exchanges.length ≤ remaining ∧
        LastRound ask resolve autoInvoke (exchanges.length = remaining)
          (transcript history exchanges) s₁ result s' after ∧
        events = before ++ after := by
  intro remaining
  induction remaining with
  | zero =>
      intro history s events h
      obtain hlast | ⟨_, _, _, _, _, _, hzero, _⟩ := leadRounds_step h
      · exact ⟨[], s, [], events, .nil, Nat.le_refl 0, by simpa using hlast, rfl⟩
      · exact absurd rfl hzero
  | succ remaining ih =>
      intro history s events h
      obtain hlast | ⟨x, s₁, first, rest, hx, -, -, hrest, rfl⟩ := leadRounds_step h
      · refine ⟨[], s, [], events, .nil, Nat.zero_le _, ?_, rfl⟩
        -- Rounds are counted down in the code and up in the row, hence the equation is turned.
        have hfull : (remaining + 1 = 0) = (0 = remaining + 1) :=
          propext ⟨Eq.symm, Eq.symm⟩
        rw [hfull] at hlast
        simpa using hlast
      · -- The induction hypothesis speaks of the history that the exchange left.
        obtain ⟨exchanges, s₂, before, after, hexchanges, hlength, hlast, rfl⟩ :=
          ih (history ++ x.messages) s₁ rest hrest
        refine ⟨x :: exchanges, s₂, first ++ before, after, .cons hx hexchanges, ?_, ?_, ?_⟩
        · rw [List.length_cons]
          omega
        · simpa using hlast
        · rw [List.append_assoc]

/-- The failure for a conversation without rounds plays no part in one that has rounds. -/
theorem leadRounds_spent (spent' : EngineError) :
    ∀ (remaining : Nat) (history : History),
      leadRounds ask resolve autoInvoke spent (remaining + 1) history
        = leadRounds ask resolve autoInvoke spent' (remaining + 1) history := by
  intro remaining
  induction remaining with
  | zero =>
      intro history
      simp only [leadRounds, beq_self_eq_true, Bool.or_true, if_true]
  | succ remaining ih =>
      intro history
      rw [leadRounds, leadRounds]
      simp only [ih]

end Rounds

/-! ## §3. Requests for replies. -/

/-- How a conversation asks for a reply. -/
def askFor (e : Engine σ) (streamed : Bool) (service : Service σ) (settings : Settings)
    (history : History) : Exec σ (Except EngineError Message) :=
  let request : ChatRequest := { history, settings, tools := e.registry.descriptors }
  if streamed then requestStream service request else requestReply service request

theorem converse_eq_leadRounds (e : Engine σ) (invoke : Caller σ Outcome)
    (o : ConversationOptions) (streamed : Bool) (service : Service σ) (settings : Settings)
    (arguments : Arguments) (history : History) :
    e.converse invoke o streamed service settings arguments history
      = leadRounds (e.askFor streamed service settings) (e.resolveTools invoke arguments)
          o.autoInvoke service.noReply o.rounds history := rfl

/-- The rounds that a conversation may have, counted from the first. -/
theorem rounds_eq_succ (o : ConversationOptions) : ∃ more, o.rounds = more + 1 := by
  refine ⟨o.rounds - 1, ?_⟩
  have hpos : 1 ≤ o.rounds := by
    unfold ConversationOptions.rounds
    split <;> omega
  omega

/-- Taking in a stream asks no service. -/
theorem requests_takeIn {sum : Accumulator} {fragments : List (Except String Fragment)}
    {result : Except EngineError Accumulator} {s s' : σ} {events : List Event}
    (h : takeIn sum fragments s = some (result, s', events)) : requests events = [] := by
  induction fragments generalizing sum s events with
  | nil =>
      obtain ⟨-, -, rfl⟩ := Exec.pure_eq_some_iff.mp h
      rfl
  | cons fragment fragments ih =>
      cases fragment with
      | error failure =>
          obtain ⟨-, -, rfl⟩ := Exec.pure_eq_some_iff.mp h
          rfl
      | ok f =>
          obtain ⟨rest, hrest, rfl⟩ := Exec.emit_bind_eq_some_iff.mp h
          rw [requests_fragment]
          -- The fragment ends the reply, or the next one is taken in.
          by_cases hend : endsReply (sum.push f) f = true
          · rw [if_pos hend] at hrest
            obtain ⟨-, -, rfl⟩ := Exec.pure_eq_some_iff.mp hrest
            rfl
          · rw [if_neg hend] at hrest
            exact ih hrest

section Requests

variable {service : Service σ} {request : ChatRequest} {reply : Except EngineError Message}
  {s s' : σ} {events : List Event}

/-- Asking for a complete reply is exactly one request. -/
theorem requests_requestReply
    (h : requestReply service request s = some (reply, s', events)) :
    requests events = [(service.id, request)] := by
  obtain ⟨rest, hrest, rfl⟩ := Exec.emit_bind_eq_some_iff.mp h
  rw [requests_request]
  rw [Exec.act_bind] at hrest
  generalize (service.complete request s).1 = got at hrest
  cases got with
  | error failure =>
      obtain ⟨-, -, rfl⟩ := Exec.pure_eq_some_iff.mp hrest
      rfl
  | ok messages =>
      obtain ⟨-, -, rfl⟩ := Exec.pure_eq_some_iff.mp hrest
      rfl

/-- Asking for a streamed reply is exactly one request; fragments are none. -/
theorem requests_requestStream
    (h : requestStream service request s = some (reply, s', events)) :
    requests events = [(service.id, request)] := by
  obtain ⟨rest, hrest, rfl⟩ := Exec.emit_bind_eq_some_iff.mp h
  rw [requests_request]
  rw [Exec.act_bind] at hrest
  generalize (service.stream request s).1 = got at hrest
  cases got with
  | error failure =>
      obtain ⟨-, -, rfl⟩ := Exec.pure_eq_some_iff.mp hrest
      rfl
  | ok fragments =>
      obtain ⟨_, htake, -⟩ | ⟨_, _, first, more, htake, hreply, rfl⟩ :=
        Exec.orFail_eq_some_iff.mp hrest
      · rw [requests_takeIn htake]
      · obtain ⟨-, -, rfl⟩ := Exec.pure_eq_some_iff.mp hreply
        rw [requests_append, requests_takeIn htake, requests_nil, List.append_nil]

/-- Asking for a reply is exactly one request, with the whole history. -/
theorem requests_askFor {e : Engine σ} {streamed : Bool} {settings : Settings}
    {history : History}
    (h : e.askFor streamed service settings history s = some (reply, s', events)) :
    requests events
      = [(service.id, { history, settings, tools := e.registry.descriptors })] := by
  cases streamed with
  | false => exact requests_requestReply h
  | true => exact requests_requestStream h

end Requests

/-! ## §4. Answers to tool calls. -/

/-- A caller that asks no service at the top level of the trace. -/
def Quiet (invoke : Caller σ Outcome) : Prop :=
  ∀ f arguments s outcome s' events,
    invoke f arguments s = some (outcome, s', events) → requests events = []

/-- Invocations are quiet at any depth: their events stand inside their own. -/
theorem quiet_caller (e : Engine σ) (depth : Nat) : Quiet (e.caller depth) := by
  intro f arguments s outcome s' events h
  cases depth with
  | zero => contradiction
  | succ depth =>
      obtain ⟨inner, -, rfl⟩ := Exec.inside_eq_some_iff.mp h
      rfl

section Tools

variable {e : Engine σ} {invoke : Caller σ Outcome} {arguments : Arguments} {s s' : σ}
  {events : List Event}

/-- A request that needs no call is answered under its id. -/
theorem prepareTool_answers {request : ToolCall} {message : Message}
    (h : e.prepareTool arguments request = .ok (.answer message)) : message.Answers request := by
  obtain ⟨_, -, hprepare⟩ | ⟨_, -, ⟨_, -, hprepare⟩ |
    ⟨_, -, ⟨-, hprepare⟩ | ⟨_, _, -, hprepare⟩⟩⟩ := prepareTool_cases e arguments request
  · rw [hprepare] at h
    cases h
    exact ⟨rfl, rfl⟩
  · rw [hprepare] at h
    contradiction
  · rw [hprepare] at h
    cases h
  · rw [hprepare] at h
    cases h
    exact ⟨rfl, rfl⟩

/-- What carrying out a request can do: nothing, if it fails or is answered without a call, or
exactly one call, whose result becomes the answer. -/
theorem resolveTool_cases {request : ToolCall} {answer : Except EngineError Message}
    (h : e.resolveTool invoke arguments request s = some (answer, s', events)) :
    (∃ error, e.prepareTool arguments request = .error error ∧ answer = .error error ∧ s' = s ∧
        events = []) ∨
      (∃ message, e.prepareTool arguments request = .ok (.answer message) ∧
        answer = .ok message ∧ s' = s ∧ events = []) ∨
      ∃ f given result, e.prepareTool arguments request = .ok (.call f given) ∧
        invoke f given s = some (result, s', events) ∧
        answer = result.map fun outcome =>
          .toolResult request.id f.descriptor.toolName outcome.text := by
  rw [resolveTool_eq] at h
  cases hprepare : e.prepareTool arguments request with
  | error error =>
      rw [hprepare] at h
      obtain ⟨rfl, rfl, rfl⟩ := Exec.pure_eq_some_iff.mp h
      exact Or.inl ⟨error, rfl, rfl, rfl, rfl⟩
  | ok prepared =>
      rw [hprepare] at h
      cases prepared with
      | answer message =>
          obtain ⟨rfl, rfl, rfl⟩ := Exec.pure_eq_some_iff.mp h
          exact Or.inr (Or.inl ⟨message, rfl, rfl, rfl, rfl⟩)
      | call f given =>
          refine Or.inr (Or.inr ⟨f, given, ?_⟩)
          obtain ⟨error, hcall, rfl⟩ | ⟨outcome, s₁, first, rest, hcall, hrest, rfl⟩ :=
            Exec.orFail_eq_some_iff.mp h
          · exact ⟨.error error, rfl, hcall, rfl⟩
          · obtain ⟨rfl, rfl, rfl⟩ := Exec.pure_eq_some_iff.mp hrest
            rw [List.append_nil]
            exact ⟨.ok outcome, rfl, hcall, rfl⟩

/-- A request is answered under its id. -/
theorem resolveTool_answers {request : ToolCall} {message : Message}
    (h : e.resolveTool invoke arguments request s = some (.ok message, s', events)) :
    message.Answers request := by
  obtain ⟨error, -, hanswer, -⟩ | ⟨answer, hprepare, hanswer, -⟩ |
    ⟨f, given, result, -, -, hanswer⟩ := resolveTool_cases h
  · contradiction
  · injection hanswer with hanswer
    rw [hanswer]
    exact prepareTool_answers hprepare
  · cases result with
    | error error => contradiction
    | ok outcome =>
        injection hanswer with hanswer
        rw [hanswer]
        exact ⟨rfl, rfl⟩

theorem requests_resolveTool (hquiet : Quiet invoke) {request : ToolCall}
    {answer : Except EngineError Message}
    (h : e.resolveTool invoke arguments request s = some (answer, s', events)) :
    requests events = [] := by
  obtain ⟨_, -, -, -, rfl⟩ | ⟨_, -, -, -, rfl⟩ | ⟨f, given, result, -, hcall, -⟩ :=
    resolveTool_cases h
  · rfl
  · rfl
  · exact hquiet f given s result s' events hcall

/-- Each request gets one answer, in the order of the requests. -/
theorem resolveEach_answers {calls : List ToolCall} {answers : List (Except EngineError Message)}
    (h : e.resolveEach invoke arguments calls s = some (answers, s', events)) :
    List.Forall₂ (fun answer request => ∀ message, answer = .ok message → message.Answers request)
      answers calls := by
  induction calls generalizing s s' answers events with
  | nil =>
      rw [resolveEach_nil] at h
      obtain ⟨rfl, -, -⟩ := Exec.pure_eq_some_iff.mp h
      exact .nil
  | cons request calls ih =>
      rw [resolveEach_cons] at h
      obtain ⟨answer, s₁, first, rest, hfirst, hrest, -⟩ := Exec.bind_eq_some_iff.mp h
      obtain ⟨more, s₂, second, last, hmore, hlast, -⟩ := Exec.bind_eq_some_iff.mp hrest
      obtain ⟨rfl, -, -⟩ := Exec.pure_eq_some_iff.mp hlast
      refine .cons (fun message hm => ?_) (ih hmore)
      rw [hm] at hfirst
      exact resolveTool_answers hfirst

theorem requests_resolveEach (hquiet : Quiet invoke) {calls : List ToolCall}
    {answers : List (Except EngineError Message)}
    (h : e.resolveEach invoke arguments calls s = some (answers, s', events)) :
    requests events = [] := by
  induction calls generalizing s s' answers events with
  | nil =>
      rw [resolveEach_nil] at h
      obtain ⟨-, -, rfl⟩ := Exec.pure_eq_some_iff.mp h
      rfl
  | cons request calls ih =>
      rw [resolveEach_cons] at h
      obtain ⟨answer, s₁, first, rest, hfirst, hrest, rfl⟩ := Exec.bind_eq_some_iff.mp h
      obtain ⟨more, s₂, second, last, hmore, hlast, rfl⟩ := Exec.bind_eq_some_iff.mp hrest
      obtain ⟨-, -, rfl⟩ := Exec.pure_eq_some_iff.mp hlast
      rw [requests_append, requests_append, requests_resolveTool hquiet hfirst, ih hmore]
      rfl

/-- Outcomes are collected only if all of them are there. -/
theorem collect_eq_ok {ε α : Type} :
    ∀ {outcomes : List (Except ε α)} {values : List α}, collect outcomes = .ok values →
      outcomes = values.map .ok
  | [], values, h => by
      injection h with h
      rw [← h]
      rfl
  | .error error :: outcomes, values, h => by contradiction
  | .ok value :: outcomes, values, h => by
      simp only [collect, bind, Except.bind] at h
      cases hmore : collect outcomes with
      | error error =>
          rw [hmore] at h
          contradiction
      | ok more =>
          rw [hmore] at h
          injection h with h
          rw [← h, List.map_cons, collect_eq_ok hmore]

/-- The messages for the requests of a reply answer them one by one. -/
theorem resolveTools_answers {calls : List ToolCall} {messages : List Message}
    (h : e.resolveTools invoke arguments calls s = some (.ok messages, s', events)) :
    List.Forall₂ Message.Answers messages calls := by
  obtain ⟨answers, s₁, first, rest, heach, hrest, -⟩ := Exec.bind_eq_some_iff.mp h
  obtain ⟨hcollect, -, -⟩ := Exec.pure_eq_some_iff.mp hrest
  -- All answers are messages, so the condition on an answer holds of each message.
  have hanswers := resolveEach_answers heach
  rw [collect_eq_ok hcollect.symm, List.forall₂_map_left_iff] at hanswers
  exact hanswers.imp fun message request hanswer => hanswer message rfl

theorem requests_resolveTools (hquiet : Quiet invoke) {calls : List ToolCall}
    {answer : Except EngineError (List Message)}
    (h : e.resolveTools invoke arguments calls s = some (answer, s', events)) :
    requests events = [] := by
  obtain ⟨answers, s₁, first, rest, heach, hrest, rfl⟩ := Exec.bind_eq_some_iff.mp h
  obtain ⟨-, -, rfl⟩ := Exec.pure_eq_some_iff.mp hrest
  rw [List.append_nil]
  exact requests_resolveEach hquiet heach

end Tools

/-! ## §5. The shape of a conversation. -/

section Shape

variable {e : Engine σ} {depth : Nat} {streamed : Bool} {service : Service σ}
  {settings : Settings} {arguments : Arguments} {history : History} {s s' : σ}
  {exchanges : List Exchange} {events : List Event}

/-- Each exchange has a message for every request and is one request for a reply. -/
theorem Exchanging.complete {x : Exchange}
    (h : Exchanging (e.askFor streamed service settings)
      (e.resolveTools (e.caller depth) arguments) history s x s' events) :
    x.Complete ∧
      requests events
        = [(service.id, { history, settings, tools := e.registry.descriptors })] := by
  obtain ⟨s₁, asked, answered, hask, hcalls, hresolve, rfl⟩ := h
  refine ⟨⟨hcalls, resolveTools_answers hresolve⟩, ?_⟩
  rw [requests_append, requests_askFor hask,
    requests_resolveTools (quiet_caller e depth) hresolve]
  rfl

/-- The requests of exchanges: each saw the exchanges before it. -/
theorem Exchanges.complete
    (h : Exchanges (e.askFor streamed service settings)
      (e.resolveTools (e.caller depth) arguments) history s exchanges s' events) :
    (∀ x ∈ exchanges, x.Complete) ∧
      requests events = (List.range exchanges.length).map fun k =>
        (service.id,
          { history := transcript history (exchanges.take k), settings,
            tools := e.registry.descriptors }) := by
  induction h with
  | nil => exact ⟨fun x hx => absurd hx List.not_mem_nil, rfl⟩
  | cons hx _ ih =>
      obtain ⟨hcomplete, hrequests⟩ := hx.complete
      obtain ⟨hcompletes, hrest⟩ := ih
      refine ⟨List.forall_mem_cons.mpr ⟨hcomplete, hcompletes⟩, ?_⟩
      -- The first request saw no exchange; each later one saw this exchange and those before it.
      rw [requests_append, hrequests, hrest, List.length_cons, List.range_succ_eq_map,
        List.map_cons, List.map_map]
      simp [Function.comp_def]

/-- The last round is one more request. -/
theorem LastRound.requests {autoInvoke : Bool} {full : Prop}
    {result : Except EngineError Message × History}
    (h : LastRound (e.askFor streamed service settings)
      (e.resolveTools (e.caller depth) arguments) autoInvoke full history s result s' events) :
    PromptEngine.requests events
      = [(service.id, { history, settings, tools := e.registry.descriptors })] := by
  cases h with
  | replied hask _ => exact requests_askFor hask
  | unanswered hask => exact requests_askFor hask
  | unresolved hask _ _ _ hresolve =>
      rw [requests_append, requests_askFor hask,
        requests_resolveTools (quiet_caller e depth) hresolve]
      rfl

end Shape

/-- **The shape of a conversation.**  A conversation that comes to an end is a row of complete
exchanges and a last round, no more rounds than there may be; its requests are one for each round,
each with exactly the history that the rounds before it left.  A reply ends it only if it requests
nothing, or its requests are not to be answered, or no round remains.  A failure is that of the
last round, which leaves its reply in the history exactly if answering its requests is what
failed; the failure for a conversation without rounds never comes up. -/
theorem converse_shape (e : Engine σ) (depth : Nat) (o : ConversationOptions) (streamed : Bool)
    (service : Service σ) (settings : Settings) (arguments : Arguments) (history : History) :
    (∀ spent, e.converse (e.caller depth) o streamed service settings arguments history
      = leadRounds (e.askFor streamed service settings)
          (e.resolveTools (e.caller depth) arguments) o.autoInvoke spent o.rounds history) ∧
    ∀ s outcome final s' events,
      e.converse (e.caller depth) o streamed service settings arguments history s
        = some ((outcome, final), s', events) →
      ∃ exchanges s₁ before after,
        Exchanges (e.askFor streamed service settings)
          (e.resolveTools (e.caller depth) arguments) history s exchanges s₁ before ∧
        events = before ++ after ∧
        (∀ x ∈ exchanges, x.Complete) ∧
        exchanges.length + 1 ≤ (if o.autoInvoke then max 1 o.maxAttempts else 1) ∧
        requests events = ((List.range (exchanges.length + 1)).map fun k =>
          (service.id,
            { history := transcript history (exchanges.take k), settings,
              tools := e.registry.descriptors })) ∧
        match outcome with
        | .ok reply =>
          e.askFor streamed service settings (transcript history exchanges) s₁
              = some (.ok reply, s', after) ∧
            final = transcript history exchanges ++ [reply] ∧
            (reply.hasToolCalls = false ∨ o.autoInvoke = false ∨
              exchanges.length + 1 = (if o.autoInvoke then max 1 o.maxAttempts else 1))
        | .error error =>
          (e.askFor streamed service settings (transcript history exchanges) s₁
              = some (.error error, s', after) ∧
            final = transcript history exchanges) ∨
          ∃ reply s₂ asked answered,
            e.askFor streamed service settings (transcript history exchanges) s₁
              = some (.ok reply, s₂, asked) ∧
            reply.hasToolCalls = true ∧ o.autoInvoke = true ∧
            exchanges.length + 1 < (if o.autoInvoke then max 1 o.maxAttempts else 1) ∧
            e.resolveTools (e.caller depth) arguments reply.toolCalls s₂
              = some (.error error, s', answered) ∧
            after = asked ++ answered ∧
            final = transcript history exchanges ++ [reply] := by
  obtain ⟨more, hmore⟩ := rounds_eq_succ o
  refine ⟨fun spent => ?_, fun s outcome final s' events h => ?_⟩
  · rw [converse_eq_leadRounds, hmore]
    exact leadRounds_spent spent more history
  · rw [converse_eq_leadRounds, hmore] at h
    -- Each part is read off the row of exchanges and the last round.
    obtain ⟨exchanges, s₁, before, after, hexchanges, hlength, hlast, rfl⟩ :=
      leadRounds_run more history s events h
    obtain ⟨hcomplete, hbefore⟩ := hexchanges.complete
    have hbudget : (if o.autoInvoke then max 1 o.maxAttempts else 1) = more + 1 := hmore
    refine ⟨exchanges, s₁, before, after, hexchanges, rfl, hcomplete, ?_, ?_, ?_⟩
    · rw [hbudget]
      omega
    · rw [requests_append, hbefore, hlast.requests, List.range_succ, List.map_append,
        List.map_singleton, List.take_length]
    · cases hlast with
      | replied hask hwhy =>
          refine ⟨hask, rfl, ?_⟩
          rw [hbudget, Nat.add_right_cancel_iff]
          exact hwhy
      | unanswered hask => exact Or.inl ⟨hask, rfl⟩
      | unresolved hask hcalls hauto hmore hresolve =>
          refine Or.inr ⟨_, _, _, _, hask, hcalls, hauto, ?_, hresolve, rfl, rfl⟩
          rw [hbudget]
          omega

/-- A service that asks for a tool twice in one reply, as often as the state says, and is done. -/
def countdown : Service Nat :=
  .ofComplete "countdown" fun _ n =>
    match n with
    | 0 => (.ok [.assistant "done"], 0)
    | n + 1 => (.ok [.toolRequests [⟨"a", "clock-tick", ""⟩, ⟨"b", "tick", "no JSON"⟩]], n)

/-- An engine with one function. -/
def clock : Engine Nat :=
  { registry := (Registry.empty.register "clock"
      (.ofPure { name := "tick" } fun _ => .ok (.string "tick"))).2 }

theorem converse_shape_clock :
    ∃ (outcome : Except EngineError Message) (final : History) (s' : Nat) (events : List Event)
      (exchanges : List Exchange),
      clock.converse (clock.caller 1) ⟨true, 5⟩ true countdown {} {} [.user "now"] 2
        = some ((outcome, final), s', events) ∧
      final.map (·.text) = ["now", "", "tick", malformedArguments, "", "tick", malformedArguments,
        "done"] ∧
      (∀ x ∈ exchanges, x.Complete) ∧ exchanges.length + 1 ≤ 5 ∧
      (requests events).length = exchanges.length + 1 := by
  have htexts : (clock.converse (clock.caller 1) ⟨true, 5⟩ true countdown {} {} [.user "now"]
      2).map (fun run => run.1.2.map (·.text))
        = some ["now", "", "tick", malformedArguments, "", "tick", malformedArguments, "done"] := by
    decide +kernel
  obtain ⟨⟨⟨outcome, final⟩, s', events⟩, hrun, hfinal⟩ := Option.map_eq_some_iff.mp htexts
  obtain ⟨exchanges, _, _, _, _, _, hcomplete, hlength, hrequests, _⟩ :=
    (converse_shape clock 1 ⟨true, 5⟩ true countdown {} {} [.user "now"]).2 2 outcome final s'
      events hrun
  exact ⟨outcome, final, s', events, exchanges, hrun, hfinal, hcomplete, hlength,
    by rw [hrequests, List.length_map, List.length_range]⟩

end Engine

end PromptEngine
