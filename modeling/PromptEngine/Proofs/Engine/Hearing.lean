/-
  PromptEngine.Proofs.Engine.Hearing — what is heard in a streamed conversation.

  In each round a service is asked for a stream, the stream is read, and what was read comes to a
  reply (`Hears`).  A conversation is a row of rounds in which a reply was heard and a last one
  (`HeardRounds`, `HeardLast`).  A listener is told the fragments that were read and no others.
  What was not read has no part in the conversation: it makes the same events, leaves the same
  history and comes to the same outcome, whatever else the streams hold.

  A stream is a finite row of fragments here, made when its service is asked.  That nothing depends
  on the rest of it is what lets such a row stand for a stream without end that is read up to the
  end of a reply.  A stream that never ends a reply and never fails is not among them.

  Main result: `converse_hears`.
-/
import PromptEngine.Proofs.Engine.Answers
import PromptEngine.Proofs.Engine.Reading

namespace PromptEngine

variable {σ : Type}

/-! ## §1. What is heard in a round. -/

/-- The fragment that an event reports. -/
def Event.fragment? : Event → Option Fragment
  | .fragment f => some f
  | _ => none

/-- The fragments at the top level of a trace, in their order: what is told to a listener. -/
def fragments (events : List Event) : List Fragment :=
  events.filterMap Event.fragment?

theorem fragments_append (first rest : List Event) :
    fragments (first ++ rest) = fragments first ++ fragments rest :=
  List.filterMap_append

/-- Fragments that arrive inside an invocation are not told. -/
theorem fragments_of_calls {events : List Event} {calls : List (Function σ × Arguments)}
    (h : List.Forall₂ Event.Calls events calls) : fragments events = [] := by
  induction h with
  | nil => rfl
  | cons hcall _ ih =>
      obtain ⟨inner, rfl⟩ := hcall
      exact ih

/-- What fragments come to as a reply: the sum of those of the lowest choice. -/
inductive Replies (service : Service σ) : List Fragment → Except EngineError Message → Prop where
  | silent : Replies service [] (.error service.noReply)
  | spoken {read : List Fragment} {lowest : Nat} {sum : Fragment} :
      (∃ f ∈ read, f.choice = lowest) → (∀ g ∈ read, lowest ≤ g.choice) →
      Fragment.sum? (read.filter (·.choice = lowest)) = some sum →
      Replies service read (.ok sum.toMessage)

/-- What is heard of a service that is asked for a streamed reply: the fragments that are read and
what they come to. -/
inductive Hears (service : Service σ) (request : ChatRequest) (s : σ) :
    List Fragment → Except EngineError Message → Prop where
  /-- There is no stream. -/
  | refused {failure : String} :
      (service.stream request s).1 = .error failure →
      Hears service request s [] (.error (.service failure))
  /-- A fragment fails to arrive. -/
  | broken {stream : List (Except String Fragment)} {read : List Fragment} {failure : String} :
      (service.stream request s).1 = .ok stream → ReadOf stream read (some failure) →
      Hears service request s read (.error (.service failure))
  | heard {stream : List (Except String Fragment)} {read : List Fragment}
      {reply : Except EngineError Message} :
      (service.stream request s).1 = .ok stream → ReadOf stream read none →
      Replies service read reply → Hears service request s read reply

/-- The first of the messages that fragments add up to is the reply. -/
theorem replies_firstReply (service : Service σ) (read : List Fragment) :
    Replies service read (Engine.firstReply service (Accumulator.ofList read).messages) := by
  have hfirst : (Accumulator.ofList read).first?
      = (Accumulator.ofList read).choices.head?.map Prod.fst := rfl
  unfold Accumulator.messages
  cases hchoices : (Accumulator.ofList read).choices with
  | nil =>
      have hnone : ∀ f, f ∉ read := fun f hf => by
        have hin := Accumulator.mem_choices_ofList.mpr ⟨f, hf, rfl⟩
        rw [hchoices] at hin
        contradiction
      rw [List.eq_nil_iff_forall_not_mem.mpr hnone]
      exact .silent
  | cons entry rest =>
      rw [hchoices] at hfirst
      obtain ⟨hsome, hlowest⟩ := Accumulator.first?_ofList.mp hfirst
      refine .spoken hsome hlowest ?_
      rw [← Accumulator.get?_ofList, ← (Accumulator.kept_ofList read).mem_choices_iff, hchoices]
      exact List.mem_cons_self

/-- Fragments come to one reply. -/
theorem Replies.unique {service : Service σ} {read : List Fragment}
    {reply reply' : Except EngineError Message} (h : Replies service read reply)
    (h' : Replies service read reply') : reply' = reply := by
  cases h with
  | silent =>
      cases h' with
      | silent => rfl
      | spoken hsome _ _ =>
          obtain ⟨f, hf, -⟩ := hsome
          contradiction
  | spoken hsome hlowest hsum =>
      cases h' with
      | silent =>
          obtain ⟨f, hf, -⟩ := hsome
          contradiction
      | spoken hsome' hlowest' hsum' =>
          obtain ⟨f, hf, rfl⟩ := hsome
          obtain ⟨g, hg, rfl⟩ := hsome'
          rw [Nat.le_antisymm (hlowest' f hf) (hlowest g hg), hsum, Option.some.injEq] at hsum'
          rw [hsum']

/-- Something is heard in any case. -/
theorem exists_hears (service : Service σ) (request : ChatRequest) (s : σ) :
    ∃ read reply, Hears service request s read reply := by
  cases hanswer : (service.stream request s).1 with
  | error failure => exact ⟨[], _, .refused hanswer⟩
  | ok stream =>
      obtain ⟨read, fault, hread⟩ := exists_readOf stream
      cases fault with
      | none => exact ⟨read, _, .heard hanswer hread (replies_firstReply service read)⟩
      | some failure => exact ⟨read, _, .broken hanswer hread⟩

namespace Engine

/-- A request that is refused makes no fragments. -/
theorem requestStream_of_refused {service : Service σ} {request : ChatRequest} {s : σ}
    {failure : String} (h : (service.stream request s).1 = .error failure) :
    requestStream service request s
      = some (.error (.service failure), (service.stream request s).2,
          [.request service.id request.history request.settings request.tools]) := by
  unfold requestStream
  rw [Exec.emit_bind, Exec.act_bind, h]
  rfl

/-- **A request for a stream** comes to what is read of the stream. -/
theorem requestStream_of_readOf {service : Service σ} {request : ChatRequest} {s : σ}
    {stream : List (Except String Fragment)} {read : List Fragment} {fault : Option String}
    (h : (service.stream request s).1 = .ok stream) (hread : ReadOf stream read fault) :
    requestStream service request s
      = some (fault.elim (firstReply service (Accumulator.ofList read).messages) fun failure =>
            .error (.service failure),
          (service.stream request s).2,
          .request service.id request.history request.settings request.tools
            :: read.map .fragment) := by
  unfold requestStream
  rw [Exec.emit_bind, Exec.act_bind, h]
  dsimp only
  unfold Exec.orFail
  rw [Exec.bind_of_some (takeIn_readOf hread _), Exec.behind_behind]
  cases fault with
  | none =>
      dsimp only [Option.elim]
      rw [Exec.pure_apply, Exec.behind_some, List.append_nil]
      rfl
  | some failure =>
      dsimp only [Option.elim]
      rw [Exec.pure_apply, Exec.behind_some, List.append_nil]
      rfl

section Rounds

variable {e : Engine σ} {depth : Nat} {service : Service σ} {settings : Settings}
  {arguments : Arguments} {history : History} {s s' : σ} {read : List Fragment}
  {reply : Except EngineError Message} {events : List Event}

/-- The request of a round. -/
def roundRequest (e : Engine σ) (settings : Settings) (history : History) : ChatRequest :=
  { history, settings, tools := e.registry.descriptors }

/-- The trace of a request for a streamed reply: each fragment that is read is an event. -/
def hearing (e : Engine σ) (service : Service σ) (settings : Settings) (history : History)
    (read : List Fragment) : List Event :=
  .request service.id history settings e.registry.descriptors :: read.map .fragment

@[simp]
theorem fragments_hearing (e : Engine σ) (service : Service σ) (settings : Settings)
    (history : History) (read : List Fragment) :
    fragments (e.hearing service settings history read) = read := by
  show (read.map Event.fragment).filterMap Event.fragment? = read
  rw [List.filterMap_map]
  exact List.filterMap_some

/-- **One request** comes to what is heard. -/
theorem askFor_of_hears (h : Hears service (e.roundRequest settings history) s read reply) :
    e.askFor true service settings history s
      = some (reply, (service.stream (e.roundRequest settings history) s).2,
          e.hearing service settings history read) := by
  show requestStream service (e.roundRequest settings history) s = _
  cases h with
  | refused hanswer => exact requestStream_of_refused hanswer
  | broken hanswer hread => exact requestStream_of_readOf hanswer hread
  | heard hanswer hread hreply =>
      rw [← hreply.unique (replies_firstReply service read)]
      exact requestStream_of_readOf hanswer hread

/-- What a request came to was heard. -/
theorem hears_of_askFor
    (h : e.askFor true service settings history s = some (reply, s', events)) :
    ∃ read, Hears service (e.roundRequest settings history) s read reply ∧
      s' = (service.stream (e.roundRequest settings history) s).2 ∧
      events = e.hearing service settings history read := by
  obtain ⟨read, reply', hhears⟩ := exists_hears service (e.roundRequest settings history) s
  obtain ⟨rfl, rfl, rfl⟩ := Exec.end_eq_iff.mp ((askFor_of_hears hhears).symm.trans h)
  exact ⟨read, hhears, rfl, rfl⟩

/-! ## §2. What is heard in a conversation. -/

/-- Rounds that were followed by another one: in each a reply was heard that requests tool calls,
and they were answered.  Kept are the messages of each round and what was read in it. -/
inductive HeardRounds (e : Engine σ) (depth : Nat) (service : Service σ) (settings : Settings)
    (arguments : Arguments) :
    History → σ → List (Exchange × List Fragment) → σ → List Event → Prop where
  | nil {history : History} {s : σ} :
      HeardRounds e depth service settings arguments history s [] s []
  | cons {history : History} {s s₁ s' : σ} {x : Exchange} {read : List Fragment}
      {rounds : List (Exchange × List Fragment)} {answered rest : List Event} :
      Hears service (e.roundRequest settings history) s read (.ok x.reply) →
      x.reply.hasToolCalls = true →
      e.resolveTools (e.caller depth) arguments x.reply.toolCalls
          (service.stream (e.roundRequest settings history) s).2
        = some (.ok x.results, s₁, answered) →
      HeardRounds e depth service settings arguments (history ++ x.messages) s₁ rounds s' rest →
      HeardRounds e depth service settings arguments history s ((x, read) :: rounds) s'
        (e.hearing service settings history read ++ answered ++ rest)

/-- The round that ends a conversation, and what is read in it. -/
inductive HeardLast (e : Engine σ) (depth : Nat) (service : Service σ) (settings : Settings)
    (arguments : Arguments) (autoInvoke : Bool) (history : History) (s : σ) :
    List Fragment → Except EngineError Message × History → σ → List Event → Prop where
  /-- The reply that was heard is the outcome. -/
  | replied {read : List Fragment} {reply : Message} :
      Hears service (e.roundRequest settings history) s read (.ok reply) →
      HeardLast e depth service settings arguments autoInvoke history s read
        (.ok reply, history ++ [reply])
        (service.stream (e.roundRequest settings history) s).2
        (e.hearing service settings history read)
  /-- No reply was heard, and nothing joins the history. -/
  | unheard {read : List Fragment} {error : EngineError} :
      Hears service (e.roundRequest settings history) s read (.error error) →
      HeardLast e depth service settings arguments autoInvoke history s read
        (.error error, history)
        (service.stream (e.roundRequest settings history) s).2
        (e.hearing service settings history read)
  /-- The requests of the reply that was heard could not be answered. -/
  | unresolved {read : List Fragment} {reply : Message} {error : EngineError} {s' : σ}
      {answered : List Event} :
      Hears service (e.roundRequest settings history) s read (.ok reply) →
      reply.hasToolCalls = true → autoInvoke = true →
      e.resolveTools (e.caller depth) arguments reply.toolCalls
          (service.stream (e.roundRequest settings history) s).2
        = some (.error error, s', answered) →
      HeardLast e depth service settings arguments autoInvoke history s read
        (.error error, history ++ [reply]) s'
        (e.hearing service settings history read ++ answered)

/-- In a row of exchanges each reply was heard. -/
theorem heardRounds_of_exchanges {exchanges : List Exchange}
    (h : Exchanges (e.askFor true service settings) (e.resolveTools (e.caller depth) arguments)
      history s exchanges s' events) :
    ∃ rounds, rounds.map Prod.fst = exchanges ∧
      HeardRounds e depth service settings arguments history s rounds s' events := by
  induction h with
  | nil => exact ⟨[], rfl, .nil⟩
  | @cons history s s₁ s' x xs first rest hx _ ih =>
      obtain ⟨s₂, asked, answered, hask, hcalls, hresolve, rfl⟩ := hx
      obtain ⟨read, hhears, rfl, rfl⟩ := hears_of_askFor hask
      obtain ⟨rounds, rfl, hrounds⟩ := ih
      exact ⟨(x, read) :: rounds, rfl, .cons hhears hcalls hresolve hrounds⟩

/-- In the last round something was heard. -/
theorem heardLast_of_lastRound {autoInvoke : Bool} {full : Prop}
    {result : Except EngineError Message × History}
    (h : LastRound (e.askFor true service settings) (e.resolveTools (e.caller depth) arguments)
      autoInvoke full history s result s' events) :
    ∃ read, HeardLast e depth service settings arguments autoInvoke history s read result s'
      events := by
  cases h with
  | replied hask _ =>
      obtain ⟨read, hhears, rfl, rfl⟩ := hears_of_askFor hask
      exact ⟨read, .replied hhears⟩
  | unanswered hask =>
      obtain ⟨read, hhears, rfl, rfl⟩ := hears_of_askFor hask
      exact ⟨read, .unheard hhears⟩
  | unresolved hask hcalls hauto _ hresolve =>
      obtain ⟨read, hhears, rfl, rfl⟩ := hears_of_askFor hask
      exact ⟨read, .unresolved hhears hcalls hauto hresolve⟩

/-- **Rounds that were heard are led**, and the conversation goes on behind them. -/
theorem leadRounds_of_heardRounds {autoInvoke : Bool} {spent : EngineError}
    {rounds : List (Exchange × List Fragment)} (more : Nat)
    (h : HeardRounds e depth service settings arguments history s rounds s' events)
    (hauto : rounds ≠ [] → autoInvoke = true) :
    leadRounds (e.askFor true service settings) (e.resolveTools (e.caller depth) arguments)
        autoInvoke spent (rounds.length + (more + 1)) history s
      = Exec.behind events (leadRounds (e.askFor true service settings)
          (e.resolveTools (e.caller depth) arguments) autoInvoke spent (more + 1)
          (transcript history (rounds.map Prod.fst)) s') := by
  induction h with
  | nil =>
      rw [List.length_nil, Nat.zero_add, List.map_nil, transcript_nil, Exec.behind_nil]
  | @cons history s s₁ s' x read rounds answered rest hhears hcalls hresolve _ ih =>
      have htrue : autoInvoke = true := hauto (List.cons_ne_nil _ _)
      have hcount : ((x, read) :: rounds).length + (more + 1)
          = (rounds.length + (more + 1)) + 1 := by
        rw [List.length_cons]
        omega
      have hgoes : (!x.reply.hasToolCalls || !autoInvoke || rounds.length + (more + 1) == 0)
          = false := by
        rw [hcalls, htrue]
        rfl
      have hmessages : history ++ [x.reply] ++ x.results = history ++ x.messages :=
        List.append_assoc history [x.reply] x.results
      -- The reply requests tool calls, and a round is left, so the code goes on.
      rw [hcount, leadRounds, Exec.bind_of_some (askFor_of_hears hhears)]
      simp only [hgoes, Bool.false_eq_true, if_false]
      rw [Exec.bind_of_some hresolve]
      dsimp only
      rw [hmessages, ih fun _ => htrue, List.map_cons, transcript_cons, Exec.behind_behind,
        Exec.behind_behind, List.append_assoc]

/-- Answering tool calls makes invocations, and no fragment is among them. -/
theorem fragments_resolveTools {calls : List ToolCall}
    {answer : Except EngineError (List Message)}
    (h : e.resolveTools (e.caller depth) arguments calls s = some (answer, s', events)) :
    fragments events = [] := by
  obtain ⟨answers, s₁, first, rest, heach, hcollect, rfl⟩ := Exec.bind_eq_some_iff.mp h
  obtain ⟨-, -, rfl⟩ := Exec.pure_eq_some_iff.mp hcollect
  have hcalls := (inTurn_resolveEach heach).calls fun _ _ _ _ _ => calls_resolveTool
  rw [List.append_nil]
  exact fragments_of_calls hcalls

/-- The fragments of rounds are what was read in them. -/
theorem HeardRounds.fragments_eq {rounds : List (Exchange × List Fragment)}
    (h : HeardRounds e depth service settings arguments history s rounds s' events) :
    fragments events = rounds.flatMap Prod.snd := by
  induction h with
  | nil => rfl
  | cons _ _ hresolve _ ih =>
      rw [fragments_append, fragments_append, fragments_hearing, fragments_resolveTools hresolve,
        ih, List.append_nil, List.flatMap_cons]

/-- The fragments of the last round are what was read in it. -/
theorem HeardLast.fragments_eq {autoInvoke : Bool}
    {result : Except EngineError Message × History}
    (h : HeardLast e depth service settings arguments autoInvoke history s read result s'
      events) :
    fragments events = read := by
  cases h with
  | replied _ => exact fragments_hearing e service settings history read
  | unheard _ => exact fragments_hearing e service settings history read
  | unresolved _ _ _ hresolve =>
      rw [fragments_append, fragments_hearing, fragments_resolveTools hresolve, List.append_nil]

end Rounds

/-- **What was not read is not noticed.**  Two services that go by one name, and whose answers
nobody can tell apart who reads no further than to the end of a reply, come to the same if they are
asked for a streamed reply. -/
theorem requestStream_readAlike {service service' : Service σ} (hid : service'.id = service.id)
    {request : ChatRequest} (halike : ∀ s,
      ReadAlike (service'.stream request s).1 (service.stream request s).1 ∧
        (service'.stream request s).2 = (service.stream request s).2) :
    requestStream service' request = requestStream service request := by
  funext s
  obtain ⟨hanswers, hstate⟩ := halike s
  obtain ⟨failure, hleft, hright⟩ | ⟨stream, stream', read, fault, hleft, hright, hread, hread'⟩ :=
    hanswers.readOf
  · rw [requestStream_of_refused hleft, requestStream_of_refused hright, hid, hstate]
  · have hnone : service'.noReply = service.noReply := by
      unfold Service.noReply
      rw [hid]
    have hfirst : ∀ messages, firstReply service' messages = firstReply service messages := by
      rintro (_ | ⟨message, messages⟩)
      · exact congrArg Except.error hnone
      · rfl
    rw [requestStream_of_readOf hleft hread, requestStream_of_readOf hright hread', hid, hstate,
      hfirst]

/-- **A conversation hears each reply to its end and no further.**  Every stream is read in exactly
one way: to the first fragment that ends the reply, or to a failure or its own end if there is none.
A streamed conversation that comes to an end is a row of rounds and a last one; in each the reply is
what the fragments of the lowest choice come to among those that were read, and these, round by
round, are the fragments that a listener is told.  After any rounds, a stream that breaks off before
the reply has ended makes the conversation fail with the failure, and its round leaves nothing in
the history.  Of two services that only differ in what comes behind the ends of replies, or behind
failures, the same conversation is had: the same outcome, history, state and trace. -/
theorem converse_hears (e : Engine σ) (depth : Nat) (o : ConversationOptions)
    (service : Service σ) (settings : Settings) (arguments : Arguments) :
    (∀ stream, ∃ read fault, ReadOf stream read fault ∧
      ∀ read' fault', ReadOf stream read' fault' → read' = read ∧ fault' = fault) ∧
    (∀ history s result s' events,
      e.converse (e.caller depth) o true service settings arguments history s
        = some (result, s', events) →
      ∃ rounds s₁ before read after,
        HeardRounds e depth service settings arguments history s rounds s₁ before ∧
        HeardLast e depth service settings arguments o.autoInvoke
          (transcript history (rounds.map Prod.fst)) s₁ read result s' after ∧
        rounds.length < o.rounds ∧ events = before ++ after ∧
        fragments events = rounds.flatMap Prod.snd ++ read) ∧
    (∀ history s rounds s₁ before stream read failure,
      HeardRounds e depth service settings arguments history s rounds s₁ before →
      rounds.length < o.rounds →
      (service.stream (e.roundRequest settings (transcript history (rounds.map Prod.fst))) s₁).1
        = .ok stream →
      ReadOf stream read (some failure) →
      ∃ s', e.converse (e.caller depth) o true service settings arguments history s
        = some ((.error (.service failure), transcript history (rounds.map Prod.fst)), s',
            before ++
              e.hearing service settings (transcript history (rounds.map Prod.fst)) read)) ∧
    ∀ service' : Service σ, service'.id = service.id →
      (∀ request s, ReadAlike (service'.stream request s).1 (service.stream request s).1 ∧
        (service'.stream request s).2 = (service.stream request s).2) →
      ∀ history s,
        e.converse (e.caller depth) o true service' settings arguments history s
          = e.converse (e.caller depth) o true service settings arguments history s := by
  refine ⟨fun stream => ?_, fun history s result s' events h => ?_,
    fun history s rounds s₁ before stream read failure hrounds hlength hstream hbroken => ?_,
    fun service' hid halike history s => ?_⟩
  · obtain ⟨read, fault, hread⟩ := exists_readOf stream
    exact ⟨read, fault, hread, fun _ _ h => hread.unique h⟩
  · obtain ⟨more, hmore⟩ := rounds_eq_succ o
    rw [converse_eq_leadRounds, hmore] at h
    obtain ⟨exchanges, s₁, before, after, hexchanges, hlength, hlast, rfl⟩ :=
      leadRounds_run more history s events h
    obtain ⟨rounds, rfl, hrounds⟩ := heardRounds_of_exchanges hexchanges
    obtain ⟨read, hheard⟩ := heardLast_of_lastRound hlast
    rw [List.length_map] at hlength
    refine ⟨rounds, s₁, before, read, after, hrounds, hheard, by omega, rfl, ?_⟩
    rw [fragments_append, hrounds.fragments_eq, hheard.fragments_eq]
  · obtain ⟨more, hmore⟩ : ∃ more, o.rounds = rounds.length + (more + 1) :=
      ⟨o.rounds - rounds.length - 1, by omega⟩
    -- There is more than one round only if tool calls are carried out.
    have hauto : rounds ≠ [] → o.autoInvoke = true := fun hne => by
      have hpos := List.length_pos_of_ne_nil hne
      by_contra hoff
      have hone : o.rounds = 1 := if_neg hoff
      omega
    rw [converse_eq_leadRounds, hmore, leadRounds_of_heardRounds more hrounds hauto, leadRounds,
      Exec.bind_of_some (askFor_of_hears (.broken hstream hbroken)), Exec.behind_behind]
    dsimp only
    rw [Exec.pure_apply, Exec.behind_some, List.append_nil]
    exact ⟨_, rfl⟩
  · have hask : e.askFor true service' settings = e.askFor true service settings :=
      funext fun history => requestStream_readAlike hid fun s => halike _ s
    obtain ⟨more, hmore⟩ := rounds_eq_succ o
    rw [converse_eq_leadRounds, converse_eq_leadRounds, hask, hmore,
      leadRounds_spent service.noReply more history]

/-- A reply that asks for a tool. -/
def question : List Fragment :=
  [.toolCall 0 { index := 0, id := some "a", name := some "clock-tick" }, .finish 0 .toolCalls]

/-- Fragments of two choices.  The end of the later one is not the end of the reply. -/
def broadcast : List Fragment :=
  [.text 2 "noise", .text 1 "over", .finish 2 .stop, .finish 1 .stop]

/-- A service that streams one reply after the other, each with `rest` behind it, until a stream
breaks off. -/
def radio (rest : List (Except String Fragment)) : Service Nat :=
  { id := "radio"
    complete := fun _ n => (.ok [], n)
    stream := fun _ n =>
      match n with
      | 0 => (.ok (question.map .ok ++ rest), 1)
      | 1 => (.ok (broadcast.map .ok ++ rest), 2)
      | n + 2 => (.ok (.ok (.text 0 "hm") :: .error "lost" :: rest), n + 3) }

theorem converse_hears_radio :
    (∃ (result : Except EngineError Message × History) (s' : Nat) (events : List Event)
        (rounds : List (Exchange × List Fragment)) (s₁ : Nat) (before : List Event)
        (read : List Fragment) (after : List Event),
      clock.converse (clock.caller 1) ⟨true, 5⟩ true (radio [.error "static"]) {} {} [.user "hi"] 0
        = some (result, s', events) ∧
      result.2.map (·.text) = ["hi", "", "tick", "over"] ∧
      HeardRounds clock 1 (radio [.error "static"]) {} {} [.user "hi"] 0 rounds s₁ before ∧
      HeardLast clock 1 (radio [.error "static"]) {} {} true
        (transcript [.user "hi"] (rounds.map Prod.fst)) s₁ read result s' after ∧
      rounds.flatMap Prod.snd ++ read = question ++ broadcast) ∧
    clock.converse (clock.caller 1) ⟨true, 5⟩ true (radio []) {} {} [.user "hi"] 0
      = clock.converse (clock.caller 1) ⟨true, 5⟩ true (radio [.error "static"]) {} {}
          [.user "hi"] 0 ∧
    ∃ (s' : Nat) (events : List Event),
      clock.converse (clock.caller 1) ⟨true, 5⟩ true (radio [.error "static"]) {} {} [.user "hi"] 2
        = some ((.error (.service "lost"), [.user "hi"]), s', events) ∧
      fragments events = [.text 0 "hm"] := by
  obtain ⟨-, hends, hbreaks, hsame⟩ :=
    converse_hears clock 1 ⟨true, 5⟩ (radio [.error "static"]) {} {}
  refine ⟨?_, ?_, ?_⟩
  · have hrun : (clock.converse (clock.caller 1) ⟨true, 5⟩ true (radio [.error "static"]) {} {}
        [.user "hi"] 0).map (fun run => (run.1.2.map (·.text), fragments run.2.2))
          = some (["hi", "", "tick", "over"], question ++ broadcast) := by
      decide +kernel
    obtain ⟨⟨result, s', events⟩, hrun, hseen⟩ := Option.map_eq_some_iff.mp hrun
    obtain ⟨htexts, hfragments⟩ := Prod.mk.inj hseen
    obtain ⟨rounds, s₁, before, read, after, hrounds, hlast, -, -, hread⟩ :=
      hends [.user "hi"] 0 result s' events hrun
    exact ⟨result, s', events, rounds, s₁, before, read, after, hrun, htexts, hrounds, hlast,
      hread.symm.trans hfragments⟩
  · refine hsame (radio []) rfl (fun request n => ?_) [.user "hi"] 0
    rcases n with _ | _ | n
    · exact ⟨.ended _ _ ⟨.finish 0 .toolCalls, rfl, Or.inr rfl, by decide⟩, rfl⟩
    · exact ⟨.ended _ _ ⟨.finish 1 .stop, rfl, Or.inl rfl, by decide⟩, rfl⟩
    · exact ⟨.broken [.text 0 "hm"] "lost" _ _, rfl⟩
  · have hopen : StillOpen [Fragment.text 0 "hm"] := by
      refine stillOpen_nil.concat ?_
      rw [endsReply_concat]
      rintro ⟨hterminal, -⟩
      contradiction
    obtain ⟨s', hrun⟩ := hbreaks [.user "hi"] 2 [] 2 [] _ [.text 0 "hm"] "lost" .nil
      (by decide) rfl (.broken [.error "static"] hopen)
    exact ⟨s', _, hrun, fragments_hearing _ _ _ _ _⟩

end Engine

end PromptEngine
