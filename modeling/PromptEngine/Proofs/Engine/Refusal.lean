/-
  PromptEngine.Proofs.Engine.Refusal — hooks cannot be got round.

  A hook that does not let a function be called keeps its body from being carried out, wherever
  the hook stands and however the function is reached: from outside, from a template, from the
  template of a prompt function, or as a tool that a model asks for.  Bodies are carried out in
  one place only, behind the hooks; everything else that happens is the events of such calls put
  together.  So it is shown for one invocation that it leaves no refused body in its trace, and
  the rest follows as for any property of traces that computations carry along (`Steady`).

  A body is native or a prompt (`FunctionBody`).  A native one has no engine to call; if it had, it
  could ask of it what a user may ask (`Operation`), and nothing else.

  Calls may nest for ever, and then there is no trace.  So that nothing is left unsaid about what
  happens on the way, invocations are also cut off at a depth (`Engine.cutOff`).  What is cut off
  always ends, and has the trace of what nests no deeper.

  Main results:
    * `runFunction_refused` — an invocation that a hook refuses ends without its body,
    * `steady_cutOff_sparing` — invocations carry out no refused body until they are cut off,
    * `performAll_refused` — whatever is asked of an engine carries out no refused body.
-/
import PromptEngine.Proofs.Engine.Asking
import PromptEngine.Proofs.Engine.Attempts

namespace PromptEngine

/-! ## §1. Events inside events. -/

namespace Event

/-- The events that stand directly inside an event. -/
def inner : Event → List Event
  | .run _ _ inner | .body _ _ inner => inner
  | _ => []

/-- The function whose body an event is about. -/
def carriedOut? : Event → Option Descriptor
  | .body d _ _ | .call d _ => some d
  | _ => none

/-- An event is another one or stands inside it, at any depth. -/
inductive Within (e : Event) : Event → Prop where
  | self : Within e e
  | inside {part whole : Event} : part ∈ whole.inner → Within e part → Within e whole

/-- No body of a function of that name is carried out in an event, at any depth. -/
def Spares (name : String) (e : Event) : Prop :=
  ∀ part, Within part e → ∀ d ∈ part.carriedOut?, d.qualifiedName ≠ name

variable {name : String} {e : Event}

/-- It is enough to look at the event itself and at those directly inside it. -/
theorem spares_of_inner (hself : ∀ d ∈ e.carriedOut?, d.qualifiedName ≠ name)
    (hinner : ∀ part ∈ e.inner, part.Spares name) : e.Spares name := by
  intro part hwithin d hd
  cases hwithin with
  | self => exact hself d hd
  | inside hmem hwithin => exact hinner _ hmem part hwithin d hd

/-- An event that is about no body and has nothing inside it. -/
theorem spares_of_plain (hself : e.carriedOut? = none) (hinner : e.inner = []) :
    e.Spares name := by
  refine spares_of_inner (fun d hd => ?_) fun part hmem => ?_
  · rw [hself] at hd
    exact absurd hd (Option.not_mem_none d)
  · rw [hinner] at hmem
    exact absurd hmem List.not_mem_nil

end Event

/-! ## §2. Traces without a body. -/

namespace Correspondence

/-- Traces correspond to themselves if no body of functions of that name is carried out. -/
def sparing (name : String) : Correspondence where
  holds events events' := events = events' ∧ ∀ e ∈ events, e.Spares name
  nil := ⟨rfl, fun _ he => absurd he List.not_mem_nil⟩
  append := by
    rintro a _ b _ ⟨rfl, ha⟩ ⟨rfl, hb⟩
    exact ⟨rfl, List.forall_mem_append.mpr ⟨ha, hb⟩⟩

theorem sparing_singleton {name : String} {e : Event} (h : e.Spares name) :
    (sparing name).holds [e] [e] :=
  ⟨rfl, List.forall_mem_singleton.mpr h⟩

theorem surrounds_sparing (name : String) : (sparing name).Surrounds where
  before _ _ _ _ := sparing_singleton (Event.spares_of_plain rfl rfl)
  after _ _ _ _ := sparing_singleton (Event.spares_of_plain rfl rfl)
  request _ _ _ _ := sparing_singleton (Event.spares_of_plain rfl rfl)
  fragment _ := sparing_singleton (Event.spares_of_plain rfl rfl)
  run := by
    rintro d arguments inner _ ⟨rfl, hinner⟩
    exact sparing_singleton (Event.spares_of_inner (fun c hc => absurd hc (Option.not_mem_none c))
      hinner)

theorem admits_sparing {name : String} {d : Descriptor} (hd : d.qualifiedName ≠ name) :
    (sparing name).Admits d where
  call _ := sparing_singleton (Event.spares_of_inner
    (fun c hc => Option.some.inj hc ▸ hd) fun _ hmem => absurd hmem List.not_mem_nil)
  body := by
    rintro arguments inner _ ⟨rfl, hinner⟩
    exact sparing_singleton (Event.spares_of_inner (fun c hc => Option.some.inj hc ▸ hd) hinner)

end Correspondence

/-! ## §3. Hooks that refuse a function. -/

variable {σ : Type}

/-- The hook does not let functions of that name be called. -/
def Hook.Refuses (hook : Hook σ) (name : String) : Prop :=
  ∀ d pending s, d.qualifiedName = name →
    (hook.before d pending s).1.action = .cancel ∨ (hook.before d pending s).1.action = .skip

/-- A round that asks a hook which never wants to proceed does not proceed, whether it comes to
that hook or ends before it. -/
theorem HookRound.not_proceed {φ α β : Type} {ask : Hook σ → φ → σ → α × σ} {action : α → β}
    {proceed : β} {revise : φ → α → φ} {hooks : List (HookId × Hook σ)} {found : φ} {s s' : σ}
    {asked : List (Asked φ α)} {left : β × φ}
    (h : HookRound ask action proceed revise hooks found s asked left s')
    (hrefuses : ∃ entry ∈ hooks, ∀ found s, action (ask entry.2 found s).1 ≠ proceed) :
    left.1 ≠ proceed := by
  induction h with
  | done =>
      obtain ⟨entry, hmem, -⟩ := hrefuses
      exact absurd hmem List.not_mem_nil
  | next hproceed _ ih =>
      obtain ⟨entry, hmem, hstop⟩ := hrefuses
      rcases List.mem_cons.mp hmem with rfl | hrest
      · exact absurd hproceed (hstop _ _)
      · exact ih ⟨entry, hrest, hstop⟩
  | stop hstop => exact hstop

namespace Engine

section Refused

variable {hooks : List (HookId × Hook σ)} {f : Function σ}

/-- **A refused attempt** ends as the hooks say, whatever the body is. -/
theorem attempt_refused (h : ∃ entry ∈ hooks, entry.2.Refuses f.descriptor.qualifiedName)
    (arguments : Arguments) (s : σ) :
    ∃ (outcome : Outcome) (s' : σ) (asked : List (Asked Pending PreAnswer)),
      (outcome = .cancelled none ∨ outcome = .skipped) ∧
      ∀ body, attempt hooks body f arguments s
        = some (.over (.ok outcome), s', asked.map (Asked.beforeEvent f.descriptor)) := by
  obtain ⟨asked, ⟨action, pending⟩, s', hround, hasked⟩ :=
    askBefore_spec f.descriptor hooks { arguments } s
  have hstop : action ≠ .proceed := by
    obtain ⟨entry, hmem, hrefuses⟩ := h
    refine hround.not_proceed ⟨entry, hmem, fun found s => ?_⟩
    obtain hcancel | hskip := hrefuses f.descriptor found s rfl
    · rw [hcancel]
      exact nofun
    · rw [hskip]
      exact nofun
  cases action with
  | proceed => exact absurd rfl hstop
  | cancel =>
      refine ⟨.cancelled none, s', asked, Or.inl rfl, fun body => ?_⟩
      rw [attempt, Exec.bind_of_some hasked]
      show Exec.behind _ (some (_, s', [])) = _
      rw [Exec.behind_some, List.append_nil]
  | skip =>
      refine ⟨.skipped, s', asked, Or.inr rfl, fun body => ?_⟩
      rw [attempt, Exec.bind_of_some hasked]
      show Exec.behind _ (some (_, s', [])) = _
      rw [Exec.behind_some, List.append_nil]

/-- **A refused invocation** ends, cancelled or skipped, and goes the same way whatever its body
would do: the body is not asked for, even where it would not return. -/
theorem runFunction_refused {e : Engine σ}
    (h : ∃ entry ∈ e.hooks, entry.2.Refuses f.descriptor.qualifiedName) (arguments : Arguments)
    (s : σ) :
    ∃ (outcome : Outcome) (s' : σ) (asked : List (Asked Pending PreAnswer)),
      (outcome = .cancelled none ∨ outcome = .skipped) ∧
      ∀ body, e.runFunction body f arguments s
        = some (.ok outcome, s',
            [.run f.descriptor arguments (asked.map (Asked.beforeEvent f.descriptor))]) := by
  obtain ⟨outcome, s', asked, houtcome, hattempt⟩ := attempt_refused h arguments s
  refine ⟨outcome, s', asked, houtcome, fun body => Exec.inside_of_some ?_⟩
  -- The attempt is over, so it is the only one however many are allowed.
  cases e.config.maxRepeats with
  | zero =>
      rw [attempts, Exec.bind_of_some (hattempt body)]
      show Exec.behind _ (some (_, s', [])) = _
      rw [Exec.behind_some, List.append_nil]
  | succ repeats =>
      rw [attempts, Exec.bind_of_some (hattempt body)]
      show Exec.behind _ (some (_, s', [])) = _
      rw [Exec.behind_some, List.append_nil]

end Refused

/-! ## §4. Invocations at any depth. -/

/-- **One invocation.**  It carries out no body of that name: if its function has the name, a hook
refuses it, and else its own body carries out none. -/
theorem steady_runFunction_sparing {e : Engine σ} {name : String}
    (h : ∃ entry ∈ e.hooks, entry.2.Refuses name) {body : Caller σ FunctionResult}
    {f : Function σ}
    (hbody : f.descriptor.qualifiedName ≠ name →
      ∀ arguments, (body f arguments).Steady Eq (.sparing name)) (arguments : Arguments) :
    (e.runFunction body f arguments).Steady Eq (.sparing name) := by
  have hsurrounds := Correspondence.surrounds_sparing name
  by_cases hname : f.descriptor.qualifiedName = name
  · rintro s _ rfl
    obtain ⟨outcome, s', asked, -, hrefused⟩ :=
      runFunction_refused (f := f) (hname.symm ▸ h) arguments s
    rw [hrefused body]
    -- All that happens inside is that hooks are asked.
    have hasked : ∀ part ∈ asked.map (Asked.beforeEvent f.descriptor), part.Spares name := by
      intro part hpart
      obtain ⟨q, -, rfl⟩ := List.mem_map.mp hpart
      exact Event.spares_of_plain rfl rfl
    exact .some ⟨rfl, rfl, hsurrounds.run f.descriptor arguments _ _ ⟨rfl, hasked⟩⟩
  · exact (steady_attempts hsurrounds e.respects_eq.hooks (Correspondence.admits_sparing hname)
      (hbody hname) _ arguments).inside (hsurrounds.run f.descriptor arguments)

/-- Invocations that are carried out down to some depth.  Those that stand further down are not
carried out: something is given for their answers, and they leave no event. -/
def cutOff (e : Engine σ) (given : Function σ → Arguments → σ → Except EngineError Outcome × σ) :
    Nat → Caller σ Outcome
  | 0 => fun f arguments => Exec.act (given f arguments)
  | depth + 1 => e.runFunction (e.carryOut (e.cutOff given depth))

section CutOff

variable {e : Engine σ} {given : Function σ → Arguments → σ → Except EngineError Outcome × σ}

/-- An invocation that stays within the depth is not cut off. -/
theorem answersAlike_cutOff (depth : Nat) :
    AnswersAlike (e.caller depth) (e.cutOff given depth) := by
  induction depth with
  | zero =>
      intro c answer h
      contradiction
  | succ depth ih =>
      intro c answer h
      exact (asking_pipeline c c.state).mono ih h

/-- Where the rest is cut off, every invocation ends. -/
theorem isSome_cutOff (given : Function σ → Arguments → σ → Except EngineError Outcome × σ)
    (depth : Nat) : ∀ c : Call σ, (c.answer (e.cutOff given depth)).isSome := by
  induction depth with
  | zero => exact fun _ => rfl
  | succ depth ih => exact fun c => (asking_pipeline (e := e) c c.state).ends ih

/-- **All invocations.**  However deep they nest until the rest is cut off, they carry out no body
of a name that a hook refuses. -/
theorem steady_cutOff_sparing {name : String} (h : ∃ entry ∈ e.hooks, entry.2.Refuses name)
    (depth : Nat) :
    ∀ f, f.Respects Eq → ∀ arguments,
      (e.cutOff given depth f arguments).Steady Eq (.sparing name) := by
  induction depth with
  | zero =>
      exact fun f _ arguments => Exec.steady_act (PromptEngine.respects_eq (given f arguments))
  | succ depth ih =>
      intro f hf arguments
      refine steady_runFunction_sparing h (fun hname bound => ?_) arguments
      exact inStep_carryOut (Correspondence.surrounds_sparing name) e.respects_eq ih hf
        (Correspondence.admits_sparing hname) bound

end CutOff

/-! ## §5. Everything that is asked of an engine. -/

/-- What a user may ask of an engine. -/
inductive Operation (σ : Type) where
  /-- Render the source of a template. -/
  | render (source : String) (arguments : Arguments)
  /-- Render a template with a trust of its own. -/
  | renderTemplate (template : Template) (arguments : Arguments) (trust : Trust)
  /-- Invoke a function by its names. -/
  | invoke (collection name : String) (arguments : Arguments)
  /-- Invoke a prompt. -/
  | invokePrompt (prompt : String) (arguments : Arguments)
  /-- Lead a conversation, with complete or with streamed replies. -/
  | converse (options : ConversationOptions) (streamed : Bool) (service : Service σ)
      (settings : Settings) (arguments : Arguments) (history : History)
  /-- Answer the tool calls of a reply. -/
  | resolveTools (requests : List ToolCall) (arguments : Arguments)

/-- Do what is asked, whatever comes of it. -/
def perform (e : Engine σ) (call : Caller σ Outcome) : Operation σ → Exec σ Unit
  | .render source arguments => do
    let _ ← e.render call source arguments
  | .renderTemplate template arguments trust => do
    let _ ← e.renderTemplate call template arguments trust
  | .invoke collection name arguments => do
    let _ ← e.invoke call collection name arguments
  | .invokePrompt prompt arguments => do
    let _ ← invokePrompt call prompt arguments
  | .converse options streamed service settings arguments history => do
    let _ ← e.converse call options streamed service settings arguments history
  | .resolveTools requests arguments => do
    let _ ← e.resolveTools call arguments requests

/-- Do one thing after the other. -/
def performAll (e : Engine σ) (call : Caller σ Outcome) : List (Operation σ) → Exec σ Unit
  | [] => pure ()
  | operation :: rest => do
    e.perform call operation
    e.performAll call rest

section Performing

variable {e : Engine σ}

/-- **One operation** carries out no refused body if the invocations that it makes carry out
none. -/
theorem steady_perform_sparing {name : String} {call : Caller σ Outcome}
    (hcall : ∀ f, f.Respects Eq → ∀ arguments, (call f arguments).Steady Eq (.sparing name))
    (operation : Operation σ) : (e.perform call operation).Steady Eq (.sparing name) := by
  cases operation with
  | render source arguments =>
      refine Exec.Steady.bind ?_ fun _ => Exec.steady_pure _
      unfold render
      cases Template.parse source with
      | error error => exact Exec.steady_pure _
      | ok template => exact inStep_renderTemplate e.respects_eq hcall template arguments _
  | renderTemplate template arguments trust =>
      exact (inStep_renderTemplate e.respects_eq hcall template arguments trust).bindSame fun _ =>
        Exec.steady_pure _
  | invoke collection name arguments =>
      refine Exec.Steady.bind ?_ fun _ => Exec.steady_pure _
      unfold Engine.invoke
      cases e.registry.get collection name with
      | error error => exact Exec.steady_pure _
      | ok f => exact hcall f f.respects_eq arguments
  | invokePrompt prompt arguments =>
      refine Exec.Steady.bind ?_ fun _ => Exec.steady_pure _
      unfold invokePrompt
      cases Template.parse prompt with
      | error error => exact Exec.steady_pure _
      | ok template => exact hcall _ (Function.respects_eq _) arguments
  | converse options streamed service settings arguments history =>
      exact (inStep_converse (Correspondence.surrounds_sparing name) e.respects_eq hcall
        service.respects_eq options streamed settings arguments history).bindSame fun _ =>
          Exec.steady_pure _
  | resolveTools requests arguments =>
      exact (inStep_resolveTools e.respects_eq hcall arguments requests).bindSame fun _ =>
        Exec.steady_pure _

/-- One operation is a row of calls, of whatever functions. -/
theorem asking_perform (operation : Operation σ) :
    Asking (fun _ => True) fun call => e.perform call operation := by
  have hany : ∀ f, e.Registered f → True := fun _ _ => trivial
  cases operation with
  | render source arguments =>
      refine Asking.bind ?_ fun _ => asking_pure _
      unfold render
      cases Template.parse source with
      | error error => exact asking_pure _
      | ok template => exact (asking_renderTemplate template arguments _).weaken hany
  | renderTemplate template arguments trust =>
      exact ((asking_renderTemplate template arguments trust).weaken hany).bind fun _ =>
        asking_pure _
  | invoke collection name arguments =>
      refine Asking.bind ?_ fun _ => asking_pure _
      unfold Engine.invoke
      cases e.registry.get collection name with
      | error error => exact asking_pure _
      | ok f => exact asking_invoke trivial arguments
  | invokePrompt prompt arguments =>
      refine Asking.bind ?_ fun _ => asking_pure _
      unfold invokePrompt
      cases Template.parse prompt with
      | error error => exact asking_pure _
      | ok template => exact asking_invoke trivial arguments
  | converse options streamed service settings arguments history =>
      exact ((asking_converse options streamed service settings arguments history).weaken
        hany).bind fun _ => asking_pure _
  | resolveTools requests arguments =>
      exact ((asking_resolveTools arguments requests).weaken hany).bind fun _ => asking_pure _

/-- Operations one after the other are a row of calls. -/
theorem asking_performAll (operations : List (Operation σ)) :
    Asking (fun _ => True) fun call => e.performAll call operations := by
  induction operations with
  | nil => exact asking_pure _
  | cons operation rest ih => exact (asking_perform operation).bind fun _ => ih

/-- **Operations one after the other** carry out no refused body if the invocations that they make
carry out none. -/
theorem spares_of_performAll {name : String} {call : Caller σ Outcome}
    (hcall : ∀ f, f.Respects Eq → ∀ arguments, (call f arguments).Steady Eq (.sparing name))
    {operations : List (Operation σ)} {s s' : σ} {events : List Event}
    (hrun : e.performAll call operations s = some ((), s', events)) :
    ∀ event ∈ events, event.Spares name := by
  have hall : (e.performAll call operations).Steady Eq (.sparing name) := by
    clear hrun
    induction operations with
    | nil => exact Exec.steady_pure _
    | cons operation rest ih => exact (steady_perform_sparing hcall operation).bind fun _ => ih
  have hends := hall s s rfl
  rw [hrun] at hends
  cases hends with
  | some hvalues => exact hvalues.2.2.2

end Performing

/-- **Hooks cannot be got round.**  Let one of the hooks of an engine, wherever it stands, refuse
the functions of a name.  Then an invocation of such a function ends, cancelled or skipped, and
would do so with any body, even one that does not return; and whatever is asked of the engine, one
thing after the other, its trace has no body of that name in it, at any depth.

Operations whose calls nest for ever have no trace as a whole.  What such calls have done until
they nest deeper than `depth` is what they do if they are cut off there, and that has a trace,
whatever is given for the answers further down; where nothing is cut off it is the trace of the
operations themselves.  There is no body of that name in it either. -/
theorem performAll_refused (e : Engine σ) (name : String)
    (h : ∃ entry ∈ e.hooks, entry.2.Refuses name) (depth : Nat) :
    (∀ (f : Function σ) (arguments : Arguments) (s : σ), f.descriptor.qualifiedName = name →
      ∃ (outcome : Outcome) (s' : σ) (events : List Event),
        (outcome = .cancelled none ∨ outcome = .skipped) ∧
        e.caller (depth + 1) f arguments s = some (.ok outcome, s', events) ∧
        ∀ body, e.runFunction body f arguments s = some (.ok outcome, s', events)) ∧
    (∀ (operations : List (Operation σ)) (s s' : σ) (events : List Event),
      e.performAll (e.caller depth) operations s = some ((), s', events) →
      ∀ event ∈ events, ∀ part : Event, part.Within event →
        ∀ d ∈ part.carriedOut?, d.qualifiedName ≠ name) ∧
    ∀ (given : Function σ → Arguments → σ → Except EngineError Outcome × σ)
      (operations : List (Operation σ)) (s : σ),
      ∃ (s' : σ) (events : List Event),
        e.performAll (e.cutOff given depth) operations s = some ((), s', events) ∧
        (∀ ending, e.performAll (e.caller depth) operations s = some ending →
          ending = ((), s', events)) ∧
        ∀ event ∈ events, ∀ part : Event, part.Within event →
          ∀ d ∈ part.carriedOut?, d.qualifiedName ≠ name := by
  have hcut : ∀ (given : Function σ → Arguments → σ → Except EngineError Outcome × σ)
      (operations : List (Operation σ)) (s : σ), ∃ (s' : σ) (events : List Event),
        e.performAll (e.cutOff given depth) operations s = some ((), s', events) ∧
        (∀ ending, e.performAll (e.caller depth) operations s = some ending →
          ending = ((), s', events)) ∧
        ∀ event ∈ events, event.Spares name := by
    intro given operations s
    have hasks := asking_performAll (e := e) operations s
    obtain ⟨⟨⟨⟩, s', events⟩, hrun⟩ :=
      Option.isSome_iff_exists.mp (hasks.ends (isSome_cutOff given depth))
    refine ⟨s', events, hrun, fun ending hending => ?_, ?_⟩
    · -- What ends within the depth ends in the same way if the rest is cut off.
      exact Option.some.inj ((hasks.mono (answersAlike_cutOff depth) hending).symm.trans hrun)
    · exact spares_of_performAll (steady_cutOff_sparing h depth) hrun
  refine ⟨fun f arguments s hname => ?_, fun operations s s' events hrun => ?_, hcut⟩
  · obtain ⟨outcome, s', asked, houtcome, hrefused⟩ :=
      runFunction_refused (f := f) (hname.symm ▸ h) arguments s
    exact ⟨outcome, s', _, houtcome, hrefused _, hrefused⟩
  · obtain ⟨s₁, events₁, -, hsame, hspares⟩ :=
      hcut (fun _ _ s => (.ok .skipped, s)) operations s
    cases hsame _ hrun
    exact hspares

/-- A hook that lets nobody pay. -/
def bursar : Hook Nat :=
  { before := fun d _ paid =>
      ({ action := if d.qualifiedName = "bank.pay" then .skip else .proceed }, paid) }

/-- A function that counts payments. -/
def pay : Function Nat :=
  { descriptor := { name := "pay" }
    body := .native fun _ paid => (.ok .null, paid + 1) }

/-- A block that invokes a function of the bank. -/
def atBank (name : String) : Spanned Block :=
  ⟨.invocation { function := ⟨⟨some "bank", name⟩, ⟨0, 0⟩⟩, positional := [], named := .empty },
    ⟨0, 0⟩⟩

/-- A template that calls a function. -/
def payment : Template :=
  { source := ""
    blocks := [atBank "pay"] }

/-- The template of a prompt that pays and then invokes itself. -/
def spree : Template :=
  { source := ""
    blocks := [atBank "pay", atBank "spree"] }

/-- A service that asks for a payment once. -/
def teller : Service Nat :=
  .ofComplete "teller" fun request paid =>
    if request.history.any (·.role = .tool) then (.ok [.assistant "done"], paid)
    else (.ok [.toolRequests [⟨"a", "bank-pay", ""⟩]], paid)

/-- An engine with a payment that may be called, a prompt that pays, and one that never stops. -/
def market : Engine Nat :=
  { registry := (((Registry.empty.register "bank" pay).2.register "bank"
      (.ofTemplate "settle" payment)).2.register "bank" (.ofTemplate "spree" spree)).2
    services := .ofList [("teller", teller)] }

/-- The same engine with the hook behind another one. -/
def bank : Engine Nat :=
  { market with hooks := [(⟨0⟩, {}), (⟨1⟩, bursar)] }

/-- All ways to a payment. -/
def attemptsToPay : List (Operation Nat) :=
  [.renderTemplate payment {} {}, .invoke "bank" "pay" {}, .invoke "bank" "settle" {},
    .converse ⟨true, 3⟩ true teller {} {} [.user "pay"], .resolveTools [⟨"b", "pay", ""⟩] {}]

/-- Calls are skipped. -/
def skipped (_ : Function Nat) (_ : Arguments) (paid : Nat) : Except EngineError Outcome × Nat :=
  (.ok .skipped, paid)

/-- Without the hook every one of them pays, the prompt as well; with it nobody does.  The prompt
that never stops has paid, until it is cut off, and with the hook it has not. -/
theorem performAll_refused_bank :
    (market.performAll (market.caller 3) attemptsToPay 0).map (·.2.1) = some 6 ∧
      (market.performAll (market.cutOff skipped 3) [.invoke "bank" "spree" {}] 0).map (·.2.1)
        = some 4 ∧
      (∃ entry ∈ bank.hooks, entry.2.Refuses "bank.pay") ∧
      (∃ events : List Event,
        bank.performAll (bank.caller 3) attemptsToPay 0 = some ((), 0, events) ∧
        ∀ event ∈ events, ∀ part : Event, part.Within event →
          ∀ d ∈ part.carriedOut?, d.qualifiedName ≠ "bank.pay") ∧
      bank.performAll (bank.caller 3) [.invoke "bank" "spree" {}] 0 = none ∧
      ∃ events : List Event,
        bank.performAll (bank.cutOff skipped 3) [.invoke "bank" "spree" {}] 0
          = some ((), 0, events) ∧
        ∀ event ∈ events, ∀ part : Event, part.Within event →
          ∀ d ∈ part.carriedOut?, d.qualifiedName ≠ "bank.pay" := by
  have hrefuses : bursar.Refuses "bank.pay" := by
    intro d pending paid hname
    exact Or.inr (if_pos hname)
  have h : ∃ entry ∈ bank.hooks, entry.2.Refuses "bank.pay" :=
    ⟨(⟨1⟩, bursar), by simp [bank], hrefuses⟩
  obtain ⟨-, hreturned, hcut⟩ := performAll_refused bank "bank.pay" h 3
  -- Without the hook the money is paid.
  have hpaid : (market.performAll (market.caller 3) attemptsToPay 0).map (·.2.1) = some 6 := by
    decide +kernel
  have hspent : (market.performAll (market.cutOff skipped 3) [.invoke "bank" "spree" {}] 0).map
      (·.2.1) = some 4 := by
    decide +kernel
  refine ⟨hpaid, hspent, h, ?_, ?_, ?_⟩
  · have hunpaid : (bank.performAll (bank.caller 3) attemptsToPay 0).map (·.2.1) = some 0 := by
      decide +kernel
    obtain ⟨⟨⟨⟩, s', events⟩, hrun, hs⟩ := Option.map_eq_some_iff.mp hunpaid
    obtain rfl : s' = 0 := hs
    exact ⟨events, hrun, hreturned attemptsToPay 0 0 events hrun⟩
  · have hnone : (bank.performAll (bank.caller 3) [.invoke "bank" "spree" {}] 0).isNone := by
      decide +kernel
    exact Option.isNone_iff_eq_none.mp hnone
  · have hunspent : (bank.performAll (bank.cutOff skipped 3) [.invoke "bank" "spree" {}] 0).map
        (·.2.1) = some 0 := by
      decide +kernel
    obtain ⟨s', events, hrun, -, hspares⟩ := hcut skipped [.invoke "bank" "spree" {}] 0
    rw [hrun] at hunspent
    obtain rfl : s' = 0 := Option.some.inj hunspent
    exact ⟨events, hrun, hspares⟩

end Engine

end PromptEngine
