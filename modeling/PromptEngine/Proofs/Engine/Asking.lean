/-
  PromptEngine.Proofs.Engine.Asking — computations as rows of questions to a caller.

  What an engine does while it renders, converses or carries out a body depends on nothing but what
  the invocations inside come to.  From a given state it makes one call, goes on with the answer to
  the next, and so on, and after finitely many calls it has its end (`Asks`).  Which calls these
  are depends on the answers; how many there can be is not bounded, since an answer may be anything.
  §2 says how each way of building computations asks; §3 and §4 carry that through everything an
  engine does, whose calls are all of functions that are registered.

  Main results:
    * `asking_converse`, `asking_renderTemplate` — conversations and templates are rows of calls,
    * `asking_pipeline` — so is an invocation, the calls being those inside its body.
-/
import PromptEngine.Proofs.Engine.Simulation

namespace PromptEngine

variable {σ : Type}

/-! ## §1. Calls. -/

/-- A call of a function, in a state. -/
structure Call (σ : Type) where
  function : Function σ
  arguments : Arguments
  state : σ

/-- What an invocation comes to: an outcome, the state that it leaves and what happened. -/
abbrev Call.Answer (σ : Type) :=
  Except EngineError Outcome × σ × List Event

/-- What a caller makes of a call, if it makes anything of it. -/
def Call.answer (c : Call σ) (invoke : Caller σ Outcome) : Option (Call.Answer σ) :=
  invoke c.function c.arguments c.state

/-- An end that is there at once, or after a call of a function with `P` and whatever follows on
its answer. -/
inductive Asks (P : Function σ → Prop) {β : Type} : (Caller σ Outcome → Option β) → Prop where
  | value (b : β) : Asks P fun _ => some b
  | call (c : Call σ) (hc : P c.function) {next : Call.Answer σ → Caller σ Outcome → Option β}
      (h : ∀ answer, Asks P (next answer)) :
      Asks P fun invoke => (c.answer invoke).bind fun answer => next answer invoke

/-- A computation that comes to its end from every state by calls of functions with `P`. -/
def Asking (P : Function σ → Prop) {α : Type} (x : Caller σ Outcome → Exec σ α) : Prop :=
  ∀ s, Asks P fun invoke => x invoke s

section Answers

variable {P Q : Function σ → Prop} {α β : Type} {y : Caller σ Outcome → Option β}

theorem Asks.weaken (hy : Asks P y) (h : ∀ f, P f → Q f) : Asks Q y := by
  induction hy with
  | value b => exact .value b
  | call c hc _ ih => exact .call c (h _ hc) ih

theorem Asking.weaken {x : Caller σ Outcome → Exec σ α} (hx : Asking P x) (h : ∀ f, P f → Q f) :
    Asking Q x :=
  fun s => (hx s).weaken h

/-- Whoever answers all calls has an end. -/
theorem Asks.ends (hy : Asks P y) {invoke : Caller σ Outcome}
    (h : ∀ c : Call σ, (c.answer invoke).isSome) : (y invoke).isSome := by
  induction hy with
  | value b => rfl
  | call c _ _ ih =>
      obtain ⟨answer, hanswer⟩ := Option.isSome_iff_exists.mp (h c)
      dsimp only
      rw [hanswer]
      exact ih answer

/-- What one caller answers, the other answers in the same way. -/
def AnswersAlike (invoke invoke' : Caller σ Outcome) : Prop :=
  ∀ (c : Call σ) (answer : Call.Answer σ), c.answer invoke = some answer →
    c.answer invoke' = some answer

/-- With more answers an end stays the same. -/
theorem Asks.mono (hy : Asks P y) {invoke invoke' : Caller σ Outcome}
    (h : AnswersAlike invoke invoke') {b : β} (hend : y invoke = some b) :
    y invoke' = some b := by
  induction hy with
  | value _ => exact hend
  | call c hc hnext ih =>
      obtain ⟨answer, hanswer, hrest⟩ := Option.bind_eq_some_iff.1 hend
      exact Option.bind_eq_some_iff.2 ⟨answer, h c answer hanswer, ih answer hrest⟩

end Answers

/-! ## §2. How computations ask. -/

section Building

variable {P : Function σ → Prop} {α β ε : Type}

/-- What goes on behind an end asks behind it. -/
theorem Asks.bind {y : Caller σ Outcome → Option α} {z : α → Caller σ Outcome → Option β}
    (hy : Asks P y) (hz : ∀ a, Asks P (z a)) :
    Asks P fun invoke => (y invoke).bind fun a => z a invoke := by
  induction hy with
  | value a => exact hz a
  | call c hc h ih =>
      -- The call stays in front; whatever follows on its answer goes on to the second part.
      simp only [Option.bind_assoc]
      exact .call c hc ih

theorem Asks.map {y : Caller σ Outcome → Option α} (hy : Asks P y) (f : α → β) :
    Asks P fun invoke => (y invoke).map f := by
  simp only [Option.map_eq_bind]
  exact hy.bind fun a => .value (f a)

theorem asking_pure (a : α) : Asking P fun _ => (pure a : Exec σ α) :=
  fun s => .value (a, s, [])

theorem asking_act (f : σ → α × σ) : Asking P fun _ => Exec.act f :=
  fun s => .value ((f s).1, (f s).2, [])

theorem asking_emit (event : Event) : Asking P fun _ => (Exec.emit event : Exec σ Unit) :=
  fun s => .value ((), s, [event])

theorem asking_invoke {f : Function σ} (hf : P f) (arguments : Arguments) :
    Asking P fun invoke => invoke f arguments := by
  intro s
  have h := Asks.call (P := P) ⟨f, arguments, s⟩ hf fun answer => .value answer
  simpa only [Call.answer, Option.bind_fun_some] using h

theorem Asking.bind {x : Caller σ Outcome → Exec σ α} {f : Caller σ Outcome → α → Exec σ β}
    (hx : Asking P x) (hf : ∀ a, Asking P fun invoke => f invoke a) :
    Asking P fun invoke => x invoke >>= f invoke := by
  intro s
  -- The events of the first part are put in front of an end, and no call is made for that.
  have hbind : (fun invoke => (x invoke >>= f invoke) s)
      = fun invoke => (x invoke s).bind fun run =>
          Exec.behind run.2.2 (f invoke run.1 run.2.1) := by
    funext invoke
    cases h : x invoke s with
    | none => exact Exec.bind_of_none h
    | some run => exact Exec.bind_of_some h
  rw [hbind]
  exact (hx s).bind fun run => (hf run.1 run.2.1).map _

theorem Asking.orFail {x : Caller σ Outcome → Exec σ (Except ε α)}
    {f : Caller σ Outcome → α → Exec σ (Except ε β)} (hx : Asking P x)
    (hf : ∀ a, Asking P fun invoke => f invoke a) :
    Asking P fun invoke => Exec.orFail (x invoke) (f invoke) := by
  refine hx.bind fun outcome => ?_
  cases outcome with
  | error error => exact asking_pure _
  | ok a => exact hf a

theorem Asking.inside {x : Caller σ Outcome → Exec σ α} (hx : Asking P x)
    (wrap : List Event → Event) : Asking P fun invoke => Exec.inside wrap (x invoke) := by
  intro s
  have hinside : (fun invoke => Exec.inside wrap (x invoke) s)
      = fun invoke => (x invoke s).map fun run => (run.1, run.2.1, [wrap run.2.2]) := by
    funext invoke
    cases h : x invoke s with
    | none => exact Exec.inside_of_none h
    | some run => exact Exec.inside_of_some h
  rw [hinside]
  exact (hx s).map _

end Building

namespace Engine

variable {e : Engine σ} {P : Function σ → Prop}

/-! ## §3. Invocations. -/

theorem asking_askBefore (d : Descriptor) (hooks : List (HookId × Hook σ)) (pending : Pending) :
    Asking P fun _ => askBefore d hooks pending := by
  induction hooks generalizing pending with
  | nil => exact asking_pure _
  | cons entry rest ih =>
      obtain ⟨id, hook⟩ := entry
      refine (asking_act (hook.before d pending)).bind fun answer => ?_
      refine (asking_emit _).bind fun _ => ?_
      cases answer.action with
      | proceed => exact ih _
      | cancel => exact asking_pure _
      | skip => exact asking_pure _

theorem asking_askAfter (d : Descriptor) (hooks : List (HookId × Hook σ)) (finished : Finished) :
    Asking P fun _ => askAfter d hooks finished := by
  induction hooks generalizing finished with
  | nil => exact asking_pure _
  | cons entry rest ih =>
      obtain ⟨id, hook⟩ := entry
      refine (asking_act (hook.after d finished)).bind fun answer => ?_
      refine (asking_emit _).bind fun _ => ?_
      cases answer.action with
      | proceed => exact ih _
      | cancel => exact asking_pure _
      | again replacement => exact asking_pure _

section Attempts

variable {body : Caller σ Outcome → Caller σ FunctionResult} {f : Function σ}
  (hbody : ∀ arguments, Asking P fun invoke => body invoke f arguments)

include hbody

theorem asking_attempt (hooks : List (HookId × Hook σ)) (arguments : Arguments) :
    Asking P fun invoke => attempt hooks (body invoke) f arguments := by
  refine (asking_askBefore _ hooks _).bind fun ⟨action, pending⟩ => ?_
  cases action with
  | cancel => exact asking_pure _
  | skip => exact asking_pure _
  | proceed =>
      refine ((hbody pending.arguments).inside _).bind fun outcome => ?_
      exact (asking_askAfter _ hooks _).bind fun _ => asking_pure _

/-- **All attempts** ask what the body asks, as often as it is carried out. -/
theorem asking_attempts (hooks : List (HookId × Hook σ)) (repeats : Nat) (arguments : Arguments) :
    Asking P fun invoke => attempts hooks (body invoke) f repeats arguments := by
  induction repeats generalizing arguments with
  | zero =>
      refine (asking_attempt hbody hooks arguments).bind fun verdict => ?_
      cases verdict <;> exact asking_pure _
  | succ repeats ih =>
      refine (asking_attempt hbody hooks arguments).bind fun verdict => ?_
      cases verdict with
      | «over» outcome => exact asking_pure _
      | again next otherwise => exact ih next

theorem asking_runFunction (arguments : Arguments) :
    Asking P fun invoke => e.runFunction (body invoke) f arguments :=
  (asking_attempts hbody _ _ arguments).inside _

end Attempts

/-! ## §4. Templates and conversations. -/

theorem asking_takeIn (sum : Accumulator) (fragments : List (Except String Fragment)) :
    Asking P fun _ => (takeIn sum fragments : Exec σ _) := by
  induction fragments generalizing sum with
  | nil => exact asking_pure _
  | cons fragment rest ih =>
      cases fragment with
      | error failure => exact asking_pure _
      | ok f =>
          refine (asking_emit _).bind fun _ => ?_
          dsimp only
          split
          · exact asking_pure _
          · exact ih _

/-- A service is asked without a call, and gives a reply or fails. -/
theorem asking_askFor (streamed : Bool) (service : Service σ) (settings : Settings)
    (history : History) : Asking P fun _ => e.askFor streamed service settings history := by
  cases streamed with
  | false =>
      refine (asking_emit _).bind fun _ => (asking_act _).bind fun got => ?_
      cases got <;> exact asking_pure _
  | true =>
      refine (asking_emit _).bind fun _ => (asking_act _).bind fun got => ?_
      cases got with
      | error failure => exact asking_pure _
      | ok fragments => exact (asking_takeIn _ fragments).orFail fun _ => asking_pure _

/-- **Rounds** ask what their tool calls ask. -/
theorem asking_leadRounds {ask : History → Exec σ (Except EngineError Message)}
    {resolve : Caller σ Outcome → List ToolCall → Exec σ (Except EngineError (List Message))}
    (hask : ∀ history, Asking P fun _ => ask history)
    (hresolve : ∀ requests, Asking P fun invoke => resolve invoke requests) (autoInvoke : Bool)
    (spent : EngineError) (remaining : Nat) (history : History) :
    Asking P fun invoke =>
      leadRounds ask (resolve invoke) autoInvoke spent remaining history := by
  -- The induction is on the rounds that are left; the history is what a round hands to the next.
  induction remaining generalizing history with
  | zero => exact asking_pure _
  | succ remaining ih =>
      refine (hask history).bind fun outcome => ?_
      cases outcome with
      | error error => exact asking_pure _
      | ok reply =>
          dsimp only
          split
          · exact asking_pure _
          · refine (hresolve reply.toolCalls).bind fun outcome => ?_
            cases outcome with
            | error error => exact asking_pure _
            | ok messages => exact ih _

section Bodies

/-- The functions that are registered with an engine. -/
def Registered (e : Engine σ) (f : Function σ) : Prop :=
  f ∈ e.registry.functions

theorem asking_renderBlock (arguments : Arguments) (trust : Trust) (block : Block) :
    Asking e.Registered fun invoke => e.renderBlock invoke arguments trust block := by
  cases block with
  | text t => exact asking_pure _
  | value v => exact asking_pure _
  | «variable» name => exact asking_pure _
  | namedArgument argument => exact asking_pure _
  | invocation call =>
      show Asking e.Registered fun invoke => e.renderInvocation invoke arguments trust call
      unfold renderInvocation
      cases hprepare : e.prepareCall call arguments with
      | error error => exact asking_pure _
      | ok prepared =>
          have hf : e.Registered prepared.1 := mem_functions_of_prepareCall hprepare
          exact (asking_invoke hf _).orFail fun _ => asking_pure _

/-- **A template** asks for its invocations. -/
theorem asking_renderTemplate (template : Template) (arguments : Arguments) (trust : Trust) :
    Asking e.Registered fun invoke => e.renderTemplate invoke template arguments trust := by
  unfold renderTemplate
  induction template.blocks with
  | nil => exact asking_pure _
  | cons block rest ih =>
      refine (asking_renderBlock arguments trust block.node).bind fun outcome => ?_
      cases outcome with
      | error error => exact asking_pure _
      | ok text => exact ih.orFail fun _ => asking_pure _

theorem asking_resolveTool (arguments : Arguments) (request : ToolCall) :
    Asking e.Registered fun invoke => e.resolveTool invoke arguments request := by
  simp only [resolveTool_eq]
  cases hprepare : e.prepareTool arguments request with
  | error error => exact asking_pure _
  | ok prepared =>
      cases prepared with
      | answer message => exact asking_pure _
      | call f given =>
          have hf : e.Registered f := mem_functions_of_prepareTool hprepare
          exact (asking_invoke hf given).orFail fun _ => asking_pure _

theorem asking_resolveTools (arguments : Arguments) (requests : List ToolCall) :
    Asking e.Registered fun invoke => e.resolveTools invoke arguments requests := by
  have heach : Asking e.Registered fun invoke => e.resolveEach invoke arguments requests := by
    induction requests with
    | nil =>
        simp only [resolveEach_nil]
        exact asking_pure _
    | cons request rest ih =>
        simp only [resolveEach_cons]
        exact (asking_resolveTool arguments request).bind fun _ => ih.bind fun _ => asking_pure _
  exact heach.bind fun _ => asking_pure _

/-- **A conversation** asks for the tool calls of its replies. -/
theorem asking_converse (o : ConversationOptions) (streamed : Bool) (service : Service σ)
    (settings : Settings) (arguments : Arguments) (history : History) :
    Asking e.Registered fun invoke =>
      e.converse invoke o streamed service settings arguments history := by
  simp only [converse_eq_leadRounds]
  exact asking_leadRounds (asking_askFor streamed service settings)
    (asking_resolveTools arguments) _ _ _ history

/-- A native body makes no calls. -/
theorem asking_native {f : Function σ} {compute : Arguments → σ → Except EngineError Json × σ}
    (hnative : f.body = .native compute) (arguments : Arguments) :
    Asking P fun invoke => e.carryOut invoke f arguments := by
  unfold carryOut
  rw [hnative]
  cases f.descriptor.bindDefaults arguments with
  | error error => exact asking_pure _
  | ok arguments =>
      exact (asking_emit _).bind fun _ => (asking_act _).bind fun _ => asking_pure _

/-- **A body** asks for the invocations of its template and for the tool calls of the replies. -/
theorem asking_carryOut (f : Function σ) (arguments : Arguments) :
    Asking e.Registered fun invoke => e.carryOut invoke f arguments := by
  cases hbody : f.body with
  | native compute => exact asking_native hbody arguments
  | prompt template settings =>
      unfold carryOut
      rw [hbody]
      cases f.descriptor.bindDefaults arguments with
      | error error => exact asking_pure _
      | ok arguments =>
          refine (asking_renderTemplate template arguments _).orFail fun prompt => ?_
          cases e.selectService (arguments.settings.or (some settings)) with
          | error error => exact asking_pure _
          | ok served => exact (asking_converse _ _ _ _ _ _).bind fun _ => asking_pure _

end Bodies

/-- A call with all hooks, as it depends on the calls inside its body. -/
def pipeline (e : Engine σ) (c : Call σ) (invoke : Caller σ Outcome) :
    Exec σ (Except EngineError Outcome) :=
  e.runFunction (e.carryOut invoke) c.function c.arguments

/-- **An invocation** asks for the calls inside its body. -/
theorem asking_pipeline (c : Call σ) : Asking e.Registered (e.pipeline c) :=
  asking_runFunction (asking_carryOut c.function) c.arguments

/-- A call that is made at some depth makes the calls inside it one level further down. -/
theorem answer_caller_succ (c : Call σ) (depth : Nat) :
    c.answer (e.caller (depth + 1)) = e.pipeline c (e.caller depth) c.state := rfl

end Engine

end PromptEngine
