/-
  PromptEngine.Proofs.Engine.Simulation — computations that keep step.

  Two computations keep step if from states that correspond both come to an end or neither does,
  and then with values, states and traces that correspond (`Exec.InStep`).  Which states, values
  and traces correspond is a parameter.  §2 says how each way of building computations keeps step;
  §4 and §5 carry that through everything an engine does.  A computation that keeps step with
  itself is steady: nothing in it tells corresponding states apart (§3).  Hooks are asked around
  bodies only, so an engine with other hooks carries out the same ones (§6).

  Main results:
    * `inStep_attempts` — invocations keep step if their rounds of hooks and their bodies do,
    * `inStep_carryOut` — bodies keep step if the invocations inside them do,
    * `leadRounds_inStep` — conversations keep step if their rounds do,
    * `inStep_caller` — invocations keep step at any depth if rounds of hooks do.
-/
import Mathlib.Data.Option.Basic
import PromptEngine.Proofs.Engine.Conversation
import PromptEngine.Proofs.Table

namespace PromptEngine

variable {σ : Type}

/-! ## §1. Traces that correspond. -/

/-- Which traces correspond.  Corresponding traces may be put together. -/
structure Correspondence where
  holds : List Event → List Event → Prop
  nil : holds [] []
  append : ∀ {a a' b b'}, holds a a' → holds b b' → holds (a ++ b) (a' ++ b')

namespace Correspondence

/-- Traces correspond only to themselves. -/
def same : Correspondence where
  holds := Eq
  nil := rfl
  append := by
    rintro a a' b b' rfl rfl
    rfl

/-- What happens around the bodies of functions corresponds to itself. -/
structure Surrounds (C : Correspondence) : Prop where
  before : ∀ id d found answer, C.holds [.before id d found answer] [.before id d found answer]
  after : ∀ id d found answer, C.holds [.after id d found answer] [.after id d found answer]
  request : ∀ service history settings tools,
    C.holds [.request service history settings tools] [.request service history settings tools]
  fragment : ∀ f, C.holds [.fragment f] [.fragment f]
  run : ∀ d arguments inner inner', C.holds inner inner' →
    C.holds [.run d arguments inner] [.run d arguments inner']

/-- The body of a function corresponds to itself if what happens inside does. -/
structure Admits (C : Correspondence) (d : Descriptor) : Prop where
  call : ∀ arguments, C.holds [.call d arguments] [.call d arguments]
  body : ∀ arguments inner inner', C.holds inner inner' →
    C.holds [.body d arguments inner] [.body d arguments inner']

theorem surrounds_same : same.Surrounds where
  before _ _ _ _ := rfl
  after _ _ _ _ := rfl
  request _ _ _ _ := rfl
  fragment _ := rfl
  run := by
    rintro d arguments inner _ rfl
    rfl

theorem admits_same (d : Descriptor) : same.Admits d where
  call _ := rfl
  body := by
    rintro arguments inner _ rfl
    rfl

end Correspondence

/-! ## §2. Computations that keep step. -/

/-- An action that does not tell corresponding states apart. -/
def Respects {α : Type} (S : σ → σ → Prop) (f : σ → α × σ) : Prop :=
  ∀ s t, S s t → (f s).1 = (f t).1 ∧ S (f s).2 (f t).2

namespace Exec

variable {α β γ δ ε : Type} {S : σ → σ → Prop} {C : Correspondence}

/-- From states that correspond both computations come to an end or neither does, and if they do,
values, states and traces correspond. -/
def InStep (S : σ → σ → Prop) (C : Correspondence) (V : α → β → Prop) (x : Exec σ α)
    (y : Exec σ β) : Prop :=
  ∀ s t, S s t →
    Option.Rel (fun l r => V l.1 r.1 ∧ S l.2.1 r.2.1 ∧ C.holds l.2.2 r.2.2) (x s) (y t)

/-- A computation that keeps step with itself. -/
def Steady (S : σ → σ → Prop) (C : Correspondence) (x : Exec σ α) : Prop :=
  InStep S C Eq x x

section InStep

variable {V : α → β → Prop} {W : γ → δ → Prop} {x : Exec σ α} {y : Exec σ β}

/-- How two computations end that keep step. -/
theorem InStep.ends (h : InStep S C V x y) {s t : σ} (hs : S s t) :
    (x s = none ∧ y t = none) ∨
      ∃ a s' events b t' events', x s = some (a, s', events) ∧ y t = some (b, t', events') ∧
        V a b ∧ S s' t' ∧ C.holds events events' := by
  have hends := h s t hs
  generalize x s = l, y t = r at hends ⊢
  cases hends with
  | none => exact Or.inl ⟨rfl, rfl⟩
  | some hvalues => exact Or.inr ⟨_, _, _, _, _, _, rfl, rfl, hvalues⟩

theorem inStep_pure {a : α} {b : β} (h : V a b) : InStep S C V (pure a) (pure b) :=
  fun _ _ hs => .some ⟨h, hs, C.nil⟩

theorem inStep_emit {event event' : Event} (h : C.holds [event] [event']) :
    InStep S C Eq (emit event) (emit event') :=
  fun _ _ hs => .some ⟨rfl, hs, h⟩

theorem inStep_act {f : σ → α × σ} {g : σ → β × σ}
    (h : ∀ s t, S s t → V (f s).1 (g t).1 ∧ S (f s).2 (g t).2) :
    InStep S C V (act f) (act g) :=
  fun s t hs => .some ⟨(h s t hs).1, (h s t hs).2, C.nil⟩

theorem InStep.bind {f : α → Exec σ γ} {g : β → Exec σ δ} (hx : InStep S C V x y)
    (hf : ∀ a b, V a b → InStep S C W (f a) (g b)) : InStep S C W (x >>= f) (y >>= g) := by
  intro s t hs
  obtain ⟨hl, hr⟩ | ⟨a, s₁, first, b, t₁, first', hl, hr, hab, hs₁, hfirst⟩ := hx.ends hs
  · rw [bind_of_none hl, bind_of_none hr]
    exact .none
  · rw [bind_of_some hl, bind_of_some hr]
    -- The second parts start from values and states that correspond.
    obtain ⟨hl, hr⟩ | ⟨c, s₂, rest, d, t₂, rest', hl, hr, hcd, hs₂, hrest⟩ :=
      (hf a b hab).ends hs₁
    · rw [hl, hr]
      exact .none
    · rw [hl, hr]
      exact .some ⟨hcd, hs₂, C.append hfirst hrest⟩

/-- Computations that give the same value may go on from it. -/
theorem InStep.bindSame {x y : Exec σ α} {f : α → Exec σ γ} {g : α → Exec σ δ}
    (hx : InStep S C Eq x y) (hf : ∀ a, InStep S C W (f a) (g a)) :
    InStep S C W (x >>= f) (y >>= g) := by
  refine hx.bind fun a b hab => ?_
  rw [← hab]
  exact hf a

theorem InStep.orFail {x y : Exec σ (Except ε α)} {f g : α → Exec σ (Except ε β)}
    (hx : InStep S C Eq x y) (hf : ∀ a, InStep S C Eq (f a) (g a)) :
    InStep S C Eq (orFail x f) (orFail y g) := by
  refine hx.bindSame fun outcome => ?_
  cases outcome with
  | error error => exact inStep_pure rfl
  | ok a => exact hf a

theorem InStep.inside {wrap : List Event → Event} (hx : InStep S C V x y)
    (hwrap : ∀ inner inner', C.holds inner inner' → C.holds [wrap inner] [wrap inner']) :
    InStep S C V (inside wrap x) (inside wrap y) := by
  intro s t hs
  obtain ⟨hl, hr⟩ | ⟨a, s₁, inner, b, t₁, inner', hl, hr, hab, hs₁, hinner⟩ := hx.ends hs
  · rw [inside_of_none hl, inside_of_none hr]
    exact .none
  · rw [inside_of_some hl, inside_of_some hr]
    exact .some ⟨hab, hs₁, hwrap inner inner' hinner⟩

/-- What is known of the values on the left may be added to what corresponds, and of traces less
may be asked. -/
theorem InStep.mono {V' : α → β → Prop} {C' : Correspondence} (h : InStep S C V x y)
    (hvalues : ∀ s a s' events b, x s = some (a, s', events) → V a b → V' a b)
    (htraces : ∀ events events', C.holds events events' → C'.holds events events') :
    InStep S C' V' x y := by
  intro s t hs
  obtain ⟨hl, hr⟩ | ⟨a, s₁, first, b, t₁, first', hl, hr, hab, hs₁, hfirst⟩ := h.ends hs
  · rw [hl, hr]
    exact .none
  · rw [hl, hr]
    exact .some ⟨hvalues s a s₁ first b hl hab, hs₁, htraces first first' hfirst⟩

end InStep

theorem steady_pure (a : α) : Steady S C (pure a : Exec σ α) :=
  inStep_pure rfl

theorem steady_exhausted : Steady S C (exhausted : Exec σ α) :=
  fun _ _ _ => .none

theorem steady_emit {event : Event} (h : C.holds [event] [event]) :
    Steady S C (emit event : Exec σ Unit) :=
  inStep_emit h

theorem steady_act {f : σ → α × σ} (h : Respects S f) : Steady S C (act f) :=
  inStep_act h

theorem Steady.bind {x : Exec σ α} {f : α → Exec σ β} (hx : Steady S C x)
    (hf : ∀ a, Steady S C (f a)) : Steady S C (x >>= f) :=
  InStep.bindSame hx hf

end Exec

/-! ## §3. Functions, hooks and services that respect states. -/

variable {S : σ → σ → Prop}

/-- Nothing tells a state apart from itself. -/
theorem respects_eq {α : Type} (f : σ → α × σ) : Respects Eq f := by
  rintro s _ rfl
  exact ⟨rfl, rfl⟩

/-- Only a native body acts on the state by itself. -/
def Function.Respects (f : Function σ) (S : σ → σ → Prop) : Prop :=
  match f.body with
  | .native compute => ∀ arguments, PromptEngine.Respects S (compute arguments)
  | .prompt _ _ => True

structure Hook.Respects (hook : Hook σ) (S : σ → σ → Prop) : Prop where
  before : ∀ d pending, PromptEngine.Respects S (hook.before d pending)
  after : ∀ d finished, PromptEngine.Respects S (hook.after d finished)

structure Service.Respects (service : Service σ) (S : σ → σ → Prop) : Prop where
  complete : ∀ request, PromptEngine.Respects S (service.complete request)
  stream : ∀ request, PromptEngine.Respects S (service.stream request)

/-- An engine none of whose parts tells corresponding states apart. -/
structure Engine.Respects (e : Engine σ) (S : σ → σ → Prop) : Prop where
  functions : ∀ f ∈ e.registry.functions, f.Respects S
  hooks : ∀ entry ∈ e.hooks, entry.2.Respects S
  services : ∀ service ∈ e.services.values, service.Respects S

theorem Function.respects_eq (f : Function σ) : f.Respects Eq := by
  unfold Function.Respects
  cases f.body with
  | native compute => exact fun _ => PromptEngine.respects_eq _
  | prompt template settings => trivial

theorem Hook.respects_eq (hook : Hook σ) : hook.Respects Eq where
  before _ _ := PromptEngine.respects_eq _
  after _ _ := PromptEngine.respects_eq _

theorem Service.respects_eq (service : Service σ) : service.Respects Eq where
  complete _ := PromptEngine.respects_eq _
  stream _ := PromptEngine.respects_eq _

theorem Engine.respects_eq (e : Engine σ) : e.Respects Eq where
  functions f _ := f.respects_eq
  hooks entry _ := entry.2.respects_eq
  services service _ := service.respects_eq

namespace Registry

variable {r : Registry σ} {f : Function σ}

theorem mem_functions_of_collection {c : Collection σ} {name : String}
    (hc : c ∈ r.collections.values) (h : c.functions.get? name = some f) : f ∈ r.functions :=
  List.mem_flatMap.mpr ⟨c, hc, Table.mem_values_of_get? h⟩

theorem mem_functions_of_get {collection name : String} (h : r.get collection name = .ok f) :
    f ∈ r.functions := by
  unfold get at h
  split at h
  · contradiction
  · rename_i c hc
    split at h
    · contradiction
    · rename_i g hg
      rw [← Except.ok.inj h]
      exact mem_functions_of_collection (Table.mem_values_of_get? hc) hg

theorem mem_functions_of_find {name : String} (h : r.find name = .ok f) : f ∈ r.functions := by
  unfold find at h
  split at h
  · contradiction
  · rename_i g hg
    obtain ⟨c, hc, hget⟩ := List.exists_of_findSome?_eq_some hg
    rw [← Except.ok.inj h]
    exact mem_functions_of_collection hc hget

theorem mem_functions_of_resolve {reference : FunctionRef} (h : r.resolve reference = .ok f) :
    f ∈ r.functions := by
  unfold resolve at h
  split at h
  · exact mem_functions_of_get h
  · exact mem_functions_of_find h

theorem mem_functions_of_resolveTool {tool : String} (h : r.resolveTool tool = .ok f) :
    f ∈ r.functions := by
  unfold resolveTool at h
  dsimp only at h
  split at h
  · exact mem_functions_of_find h
  · exact mem_functions_of_get h

end Registry

namespace Engine

variable {e : Engine σ}

theorem mem_functions_of_prepareCall {call : Invocation} {arguments bound : Arguments}
    {f : Function σ} (h : e.prepareCall call arguments = .ok (f, bound)) :
    f ∈ e.registry.functions := by
  unfold prepareCall at h
  cases hresolve : e.registry.resolve call.function.node with
  | error error =>
      rw [hresolve] at h
      contradiction
  | ok g =>
      rw [hresolve] at h
      simp only [bind, Except.bind, pure, Except.pure] at h
      split at h
      · contradiction
      · cases h
        exact Registry.mem_functions_of_resolve hresolve

theorem mem_functions_of_prepareTool {arguments given : Arguments} {request : ToolCall}
    {f : Function σ} (h : e.prepareTool arguments request = .ok (.call f given)) :
    f ∈ e.registry.functions := by
  obtain ⟨-, -, hresolve, -⟩ := prepareTool_eq_call_iff.mp h
  exact Registry.mem_functions_of_resolveTool hresolve

theorem mem_services_of_service? {id : Option String} {service : Service σ}
    (h : e.service? id = some service) : service ∈ e.services.values := by
  cases id with
  | some id => exact Table.mem_values_of_get? h
  | none => exact List.mem_of_mem_head? h

theorem mem_services_of_firstServed? {entries : List (String × Settings)} {service : Service σ}
    {settings : Settings} (h : e.firstServed? entries = some (service, settings)) :
    service ∈ e.services.values := by
  induction entries with
  | nil => contradiction
  | cons entry rest ih =>
      unfold firstServed? at h
      split at h
      · rename_i found hfound
        cases h
        exact mem_services_of_service? hfound
      · exact ih h

theorem mem_services_of_selectService {settings : Option (Table Settings)}
    {service : Service σ} {selected : Settings}
    (h : e.selectService settings = .ok (service, selected)) : service ∈ e.services.values := by
  unfold selectService at h
  split at h
  · cases hservice : e.service? none with
    | none =>
        simp only [Engine.service, hservice] at h
        contradiction
    | some found =>
        simp only [Engine.service, hservice, bind, Except.bind, pure, Except.pure] at h
        cases h
        exact mem_services_of_service? hservice
  · split at h
    · rename_i served hserved
      rw [Except.ok.inj h] at hserved
      exact mem_services_of_firstServed? hserved
    · contradiction

/-! ## §4. Invocations. -/

section Hooks

variable {C : Correspondence} (hC : C.Surrounds) {id : HookId} {hook : Hook σ}
  {hooks hooks' : List (HookId × Hook σ)}

include hC

/-- A hook that respects states is asked the same before a call and answers the same, so that the
round goes on in step or ends. -/
theorem inStep_askBefore_cons (hhook : hook.Respects S) (d : Descriptor)
    (hrest : ∀ pending, (askBefore d hooks pending).InStep S C Eq (askBefore d hooks' pending))
    (pending : Pending) :
    (askBefore d ((id, hook) :: hooks) pending).InStep S C Eq
      (askBefore d ((id, hook) :: hooks') pending) := by
  refine Exec.InStep.bindSame (Exec.steady_act (hhook.before d pending)) fun answer => ?_
  refine Exec.InStep.bindSame (Exec.steady_emit (hC.before _ _ _ _)) fun _ => ?_
  cases answer.action with
  | proceed => exact hrest _
  | cancel => exact Exec.inStep_pure rfl
  | skip => exact Exec.inStep_pure rfl

theorem inStep_askAfter_cons (hhook : hook.Respects S) (d : Descriptor)
    (hrest : ∀ finished, (askAfter d hooks finished).InStep S C Eq (askAfter d hooks' finished))
    (finished : Finished) :
    (askAfter d ((id, hook) :: hooks) finished).InStep S C Eq
      (askAfter d ((id, hook) :: hooks') finished) := by
  refine Exec.InStep.bindSame (Exec.steady_act (hhook.after d finished)) fun answer => ?_
  refine Exec.InStep.bindSame (Exec.steady_emit (hC.after _ _ _ _)) fun _ => ?_
  cases answer.action with
  | proceed => exact hrest _
  | cancel => exact Exec.inStep_pure rfl
  | again replacement => exact Exec.inStep_pure rfl

variable (hhooks : ∀ entry ∈ hooks, entry.2.Respects S)

include hhooks

theorem steady_askBefore (d : Descriptor) (pending : Pending) :
    (askBefore d hooks pending).Steady S C := by
  induction hooks generalizing pending with
  | nil => exact Exec.steady_pure _
  | cons entry rest ih =>
      obtain ⟨hhook, hrest⟩ := List.forall_mem_cons.mp hhooks
      exact inStep_askBefore_cons hC hhook d (ih hrest) pending

theorem steady_askAfter (d : Descriptor) (finished : Finished) :
    (askAfter d hooks finished).Steady S C := by
  induction hooks generalizing finished with
  | nil => exact Exec.steady_pure _
  | cons entry rest ih =>
      obtain ⟨hhook, hrest⟩ := List.forall_mem_cons.mp hhooks
      exact inStep_askAfter_cons hC hhook d (ih hrest) finished

end Hooks

section Invocations

variable {C : Correspondence} {hooks hooks' : List (HookId × Hook σ)}
  {body body' : Caller σ FunctionResult} {f : Function σ} (hf : C.Admits f.descriptor)
  (hbefore : ∀ pending, (askBefore f.descriptor hooks pending).InStep S C Eq
    (askBefore f.descriptor hooks' pending))
  (hafter : ∀ finished, (askAfter f.descriptor hooks finished).InStep S C Eq
    (askAfter f.descriptor hooks' finished))
  (hbody : ∀ arguments, (body f arguments).InStep S C Eq (body' f arguments))

include hf hbefore hafter hbody

theorem inStep_attempt (arguments : Arguments) :
    (attempt hooks body f arguments).InStep S C Eq (attempt hooks' body' f arguments) := by
  refine (hbefore _).bindSame fun ⟨action, pending⟩ => ?_
  cases action with
  | cancel => exact Exec.inStep_pure rfl
  | skip => exact Exec.inStep_pure rfl
  | proceed =>
      have hinside := (hbody pending.arguments).inside (hf.body pending.arguments)
      exact hinside.bindSame fun outcome =>
        (hafter _).bindSame fun _ => Exec.inStep_pure rfl

/-- **All attempts** keep step if the hooks and the bodies do. -/
theorem inStep_attempts (repeats : Nat) (arguments : Arguments) :
    (attempts hooks body f repeats arguments).InStep S C Eq
      (attempts hooks' body' f repeats arguments) := by
  induction repeats generalizing arguments with
  | zero =>
      refine (inStep_attempt hf hbefore hafter hbody arguments).bindSame fun verdict => ?_
      cases verdict <;> exact Exec.inStep_pure rfl
  | succ repeats ih =>
      refine (inStep_attempt hf hbefore hafter hbody arguments).bindSame fun verdict => ?_
      cases verdict with
      | «over» outcome => exact Exec.inStep_pure rfl
      | again next otherwise => exact ih next

end Invocations

/-- All attempts keep step with themselves if the body does. -/
theorem steady_attempts {C : Correspondence} (hC : C.Surrounds) {hooks : List (HookId × Hook σ)}
    (hhooks : ∀ entry ∈ hooks, entry.2.Respects S) {body : Caller σ FunctionResult}
    {f : Function σ} (hf : C.Admits f.descriptor)
    (hbody : ∀ arguments, (body f arguments).Steady S C) (repeats : Nat) (arguments : Arguments) :
    (attempts hooks body f repeats arguments).Steady S C :=
  inStep_attempts hf (steady_askBefore hC hhooks f.descriptor)
    (steady_askAfter hC hhooks f.descriptor) hbody repeats arguments

/-! ## §5. Bodies. -/

section Rounds

variable {C : Correspondence} {ask ask' : History → Exec σ (Except EngineError Message)}
  {resolve resolve' : List ToolCall → Exec σ (Except EngineError (List Message))}
  {view : Message → Message}

/-- **Rounds that keep step.**  Of two conversations the second is asked in step with the first and
gets a view of its replies, in which the requests for tools are the same; the tools answer both in
step.  If histories correspond before a round (`before`), they still do when the reply and the
answers have been added, and they end as they should (`left`) if the round is the last one, with a
reply or without. -/
theorem leadRounds_inStep (before left : History → History → Prop) (autoInvoke : Bool)
    (spent : EngineError)
    (hask : ∀ h h', before h h' →
      (ask h).InStep S C (fun outcome outcome' => outcome' = outcome.map view) (ask' h'))
    (hcalls : ∀ m, (view m).toolCalls = m.toolCalls)
    (hresolve : ∀ calls, (resolve calls).InStep S C Eq (resolve' calls))
    (hfailed : ∀ h h', before h h' → left h h')
    (hreplied : ∀ h h' reply, before h h' → left (h ++ [reply]) (h' ++ [view reply]))
    (hnext : ∀ h h' reply messages, before h h' → reply.hasToolCalls = true →
      (∃ s s' events, resolve reply.toolCalls s = some (.ok messages, s', events)) →
      before (h ++ [reply] ++ messages) (h' ++ [view reply] ++ messages))
    (remaining : Nat) {h h' : History} (hbefore : before h h') :
    (leadRounds ask resolve autoInvoke spent remaining h).InStep S C
      (fun run run' => run'.1 = run.1.map view ∧ left run.2 run'.2)
      (leadRounds ask' resolve' autoInvoke spent remaining h') := by
  -- The induction is on the rounds that are left; `before` is what a round hands to the next.
  induction remaining generalizing h h' with
  | zero => exact Exec.inStep_pure ⟨rfl, hfailed h h' hbefore⟩
  | succ remaining ih =>
      refine (hask h h' hbefore).bind ?_
      rintro outcome _ rfl
      cases outcome with
      | error error => exact Exec.inStep_pure ⟨rfl, hfailed h h' hbefore⟩
      | ok reply =>
          have hsame : (view reply).hasToolCalls = reply.hasToolCalls := by
            unfold Message.hasToolCalls
            rw [hcalls]
          have hended := hreplied h h' reply hbefore
          -- Requests are the same in the view, so both conversations decide alike whether to go on.
          dsimp only [Except.map]
          rw [hsame, hcalls]
          by_cases hlast : (!reply.hasToolCalls || !autoInvoke || remaining == 0) = true
          · rw [if_pos hlast, if_pos hlast]
            exact Exec.inStep_pure ⟨rfl, hended⟩
          · rw [if_neg hlast, if_neg hlast]
            have hrequests : reply.hasToolCalls = true := by
              by_contra hnone
              simp [hnone] at hlast
            -- The answers are the same messages, and they are answers of this round.
            have hanswers : (resolve reply.toolCalls).InStep S C
                (fun outcome outcome' => outcome = outcome' ∧
                  ∃ s s' events, resolve reply.toolCalls s = some (outcome, s', events))
                (resolve' reply.toolCalls) :=
              Exec.InStep.mono (hresolve reply.toolCalls)
                (fun s a s' events b hrun hab => ⟨hab, s, s', events, hrun⟩) (fun _ _ h => h)
            refine hanswers.bind ?_
            rintro outcome _ ⟨rfl, hrun⟩
            cases outcome with
            | error error => exact Exec.inStep_pure ⟨rfl, hended⟩
            | ok messages => exact ih (hnext h h' reply messages hbefore hrequests hrun)

end Rounds

section Bodies

variable {C : Correspondence} (hC : C.Surrounds) (he : e.Respects S)
  {invoke invoke' : Caller σ Outcome}
  (hinvoke : ∀ f, f.Respects S → ∀ arguments,
    (invoke f arguments).InStep S C Eq (invoke' f arguments))

include hC in
theorem steady_takeIn (sum : Accumulator) (fragments : List (Except String Fragment)) :
    (takeIn sum fragments : Exec σ _).Steady S C := by
  induction fragments generalizing sum with
  | nil => exact Exec.steady_pure _
  | cons fragment rest ih =>
      cases fragment with
      | error failure => exact Exec.steady_pure _
      | ok f =>
          refine (Exec.steady_emit (hC.fragment f)).bind fun _ => ?_
          dsimp only
          split
          · exact Exec.steady_pure _
          · exact ih _

include hC in
theorem steady_askFor {service : Service σ} (hservice : service.Respects S) (streamed : Bool)
    (settings : Settings) (history : History) :
    (e.askFor streamed service settings history).Steady S C := by
  cases streamed with
  | false =>
      refine (Exec.steady_emit (hC.request _ _ _ _)).bind fun _ => ?_
      refine (Exec.steady_act (hservice.complete _)).bind fun got => ?_
      cases got <;> exact Exec.steady_pure _
  | true =>
      refine (Exec.steady_emit (hC.request _ _ _ _)).bind fun _ => ?_
      refine (Exec.steady_act (hservice.stream _)).bind fun got => ?_
      cases got with
      | error failure => exact Exec.steady_pure _
      | ok fragments => exact (steady_takeIn hC _ fragments).orFail fun _ => Exec.steady_pure _

include he hinvoke

theorem inStep_renderBlock (arguments : Arguments) (trust : Trust) (block : Block) :
    (e.renderBlock invoke arguments trust block).InStep S C Eq
      (e.renderBlock invoke' arguments trust block) := by
  cases block with
  | text t => exact Exec.inStep_pure rfl
  | value v => exact Exec.inStep_pure rfl
  | «variable» name => exact Exec.inStep_pure rfl
  | namedArgument argument => exact Exec.inStep_pure rfl
  | invocation call =>
      show (e.renderInvocation invoke arguments trust call).InStep S C Eq
        (e.renderInvocation invoke' arguments trust call)
      unfold renderInvocation
      cases hprepare : e.prepareCall call arguments with
      | error error => exact Exec.inStep_pure rfl
      | ok prepared =>
          have hf := he.functions prepared.1 (mem_functions_of_prepareCall hprepare)
          exact (hinvoke _ hf _).orFail fun _ => Exec.inStep_pure rfl

theorem inStep_renderTemplate (template : Template) (arguments : Arguments) (trust : Trust) :
    (e.renderTemplate invoke template arguments trust).InStep S C Eq
      (e.renderTemplate invoke' template arguments trust) := by
  unfold renderTemplate
  induction template.blocks with
  | nil => exact Exec.inStep_pure rfl
  | cons block rest ih =>
      refine (inStep_renderBlock he hinvoke arguments trust block.node).bindSame fun outcome => ?_
      cases outcome with
      | error error => exact Exec.inStep_pure rfl
      | ok text => exact ih.orFail fun _ => Exec.inStep_pure rfl

theorem inStep_resolveTool (arguments : Arguments) (request : ToolCall) :
    (e.resolveTool invoke arguments request).InStep S C Eq
      (e.resolveTool invoke' arguments request) := by
  rw [resolveTool_eq, resolveTool_eq]
  cases hprepare : e.prepareTool arguments request with
  | error error => exact Exec.inStep_pure rfl
  | ok prepared =>
      cases prepared with
      | answer message => exact Exec.inStep_pure rfl
      | call f given =>
          have hf := he.functions f (mem_functions_of_prepareTool hprepare)
          exact (hinvoke f hf given).orFail fun _ => Exec.inStep_pure rfl

theorem inStep_resolveTools (arguments : Arguments) (requests : List ToolCall) :
    (e.resolveTools invoke arguments requests).InStep S C Eq
      (e.resolveTools invoke' arguments requests) := by
  have heach : (e.resolveEach invoke arguments requests).InStep S C Eq
      (e.resolveEach invoke' arguments requests) := by
    induction requests with
    | nil =>
        rw [resolveEach_nil, resolveEach_nil]
        exact Exec.inStep_pure rfl
    | cons request rest ih =>
        rw [resolveEach_cons, resolveEach_cons]
        exact (inStep_resolveTool he hinvoke arguments request).bindSame fun _ =>
          ih.bindSame fun _ => Exec.inStep_pure rfl
  exact heach.bindSame fun _ => Exec.inStep_pure rfl

include hC

/-- **Conversations** keep step if the invocations in them do. -/
theorem inStep_converse {service : Service σ} (hservice : service.Respects S)
    (o : ConversationOptions) (streamed : Bool) (settings : Settings) (arguments : Arguments)
    (history : History) :
    (e.converse invoke o streamed service settings arguments history).InStep S C Eq
      (e.converse invoke' o streamed service settings arguments history) := by
  -- Replies are seen as they are.
  have hask : ∀ h h', h = h' →
      (e.askFor streamed service settings h).InStep S C
        (fun outcome outcome' => outcome' = outcome.map id)
        (e.askFor streamed service settings h') := by
    rintro h _ rfl
    refine Exec.InStep.mono (steady_askFor hC hservice streamed settings h) ?_ fun _ _ h => h
    rintro s outcome s' events _ - rfl
    rw [Except.map_id, id]
  have hrounds := leadRounds_inStep Eq Eq o.autoInvoke service.noReply hask (fun _ => rfl)
    (inStep_resolveTools he hinvoke arguments) (fun _ _ h => h)
    (fun _ _ reply h => by rw [h, id]) (fun _ _ reply messages h _ _ => by rw [h, id]) o.rounds
    (Eq.refl history)
  refine hrounds.mono ?_ fun _ _ h => h
  rintro s ⟨outcome, h⟩ s' events ⟨outcome', h'⟩ - ⟨houtcome, hhistory⟩
  rw [Except.map_id, id] at houtcome
  exact Prod.ext houtcome.symm hhistory

/-- **Bodies** keep step if the invocations in them do. -/
theorem inStep_carryOut {f : Function σ} (hf : f.Respects S) (hadmits : C.Admits f.descriptor)
    (arguments : Arguments) :
    (e.carryOut invoke f arguments).InStep S C Eq (e.carryOut invoke' f arguments) := by
  unfold carryOut
  cases f.descriptor.bindDefaults arguments with
  | error error => exact Exec.inStep_pure rfl
  | ok arguments =>
      unfold Function.Respects at hf
      -- A native body may act on the state; a prompt does what the engine does, and no more.
      cases hbody : f.body with
      | native compute =>
          rw [hbody] at hf
          exact (Exec.steady_emit (hadmits.call _)).bind fun _ =>
            (Exec.steady_act (hf _)).bind fun _ => Exec.steady_pure _
      | prompt template settings =>
          refine (inStep_renderTemplate he hinvoke template arguments _).orFail fun prompt => ?_
          cases hselect : e.selectService (arguments.settings.or (some settings)) with
          | error error => exact Exec.inStep_pure rfl
          | ok served =>
              have hserved := he.services _ (mem_services_of_selectService hselect)
              exact (inStep_converse hC he hinvoke hserved _ _ _ _ _).bindSame fun _ =>
                Exec.inStep_pure rfl

end Bodies

/-- The answers to requests for tools keep step with themselves if the invocations do. -/
theorem steady_resolveTools {C : Correspondence} (he : e.Respects S) {invoke : Caller σ Outcome}
    (hinvoke : ∀ f, f.Respects S → ∀ arguments, (invoke f arguments).Steady S C)
    (arguments : Arguments) (requests : List ToolCall) :
    (e.resolveTools invoke arguments requests).Steady S C :=
  inStep_resolveTools he hinvoke arguments requests

/-! ## §6. Other hooks. -/

section WithHooks

variable (e : Engine σ) (hooks : List (HookId × Hook σ)) (invoke : Caller σ Outcome)

/-- The engine with other hooks. -/
def withHooks : Engine σ := { e with hooks }

theorem firstServed?_withHooks (entries : List (String × Settings)) :
    (e.withHooks hooks).firstServed? entries = e.firstServed? entries := by
  induction entries with
  | nil => rfl
  | cons entry rest ih =>
      unfold firstServed?
      rw [ih]
      rfl

theorem selectService_withHooks (settings : Option (Table Settings)) :
    (e.withHooks hooks).selectService settings = e.selectService settings := by
  unfold selectService
  simp only [firstServed?_withHooks]
  rfl

theorem renderTemplate_withHooks (template : Template) (arguments : Arguments) (trust : Trust) :
    (e.withHooks hooks).renderTemplate invoke template arguments trust
      = e.renderTemplate invoke template arguments trust := by
  unfold renderTemplate
  induction template.blocks with
  | nil => rfl
  | cons block rest ih =>
      unfold renderBlocks
      rw [ih]
      rfl

theorem resolveTools_withHooks (arguments : Arguments) :
    (e.withHooks hooks).resolveTools invoke arguments = e.resolveTools invoke arguments :=
  rfl

/-- **Hooks are asked around bodies, not in them**: bodies are carried out alike if the invocations
in them are. -/
theorem carryOut_withHooks :
    (e.withHooks hooks).carryOut invoke = e.carryOut invoke := by
  funext f arguments
  unfold carryOut askPrompt
  simp only [renderTemplate_withHooks, selectService_withHooks, converse_eq_leadRounds,
    resolveTools_withHooks]
  rfl

end WithHooks

/-! ## §7. Invocations at any depth. -/

/-- **Invocations** keep step in two engines that differ in their hooks only, if asking the hooks
does and no other part tells corresponding states apart. -/
theorem inStep_caller {C : Correspondence} (hC : C.Surrounds) (hadmits : ∀ d, C.Admits d)
    (he : e.Respects S) {hooks : List (HookId × Hook σ)}
    (hbefore : ∀ d pending, (askBefore d e.hooks pending).InStep S C Eq
      (askBefore d hooks pending))
    (hafter : ∀ d finished, (askAfter d e.hooks finished).InStep S C Eq
      (askAfter d hooks finished)) (depth : Nat) :
    ∀ f, f.Respects S → ∀ arguments, (e.caller depth f arguments).InStep S C Eq
      ((e.withHooks hooks).caller depth f arguments) := by
  induction depth with
  | zero => exact fun _ _ _ => Exec.steady_exhausted
  | succ depth ih =>
      intro f hf arguments
      have hbody := inStep_carryOut hC he ih hf (hadmits f.descriptor)
      rw [caller, caller, carryOut_withHooks]
      exact (inStep_attempts (hadmits f.descriptor) (hbefore f.descriptor) (hafter f.descriptor)
        hbody _ arguments).inside (hC.run f.descriptor arguments)

/-- **All invocations** of an engine whose parts respect states keep step with themselves. -/
theorem steady_caller (he : e.Respects S) (depth : Nat) :
    ∀ f, f.Respects S → ∀ arguments, (e.caller depth f arguments).Steady S .same :=
  inStep_caller Correspondence.surrounds_same Correspondence.admits_same he
    (fun d => steady_askBefore Correspondence.surrounds_same he.hooks d)
    (fun d => steady_askAfter Correspondence.surrounds_same he.hooks d) depth

end Engine

end PromptEngine
