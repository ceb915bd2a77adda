/-
  PromptEngine.Proofs.Engine.Observers — a hook that only watches is not noticed.

  An observer lets every call proceed and leaves it as it finds it (`Hook.Observes`).  It may look
  at everything, and takes notes of its own, for which there is room beside the state of the engine
  (`Observer`, `Engine.observed`).  Nothing is asked of the engine: its functions, services and
  other hooks may depend on their state and change it as they like, but they have no way to the
  notes.

  An engine with an observer among its hooks keeps step with the same engine without it: only the
  observer's own questions come on top in the trace (`Watched`), inside of nested calls as well.
  So whatever can be read off a trace without these questions is the same (`collectAll_watched`),
  in particular the bodies that were carried out and what the other hooks were asked.  If all
  hooks are observers, a call is its body, once (`caller_observers`).

  Bodies are native or prompts, so that no function has a way to the engine's hooks.  Hooks answer
  at once here, as everywhere in an engine.  An observer that waits before it answers
  would leave the invocation that asked it as it is, but the other tool calls of a round could act
  before it goes on.

  Main results:
    * `inStep_caller_observer` — an observer whose notes nobody sees, in one state with the rest,
    * `caller_unnoticed` — an observer with notes of its own, in any engine.
-/
import PromptEngine.Proofs.Engine.Beside
import PromptEngine.Proofs.Engine.Simulation

namespace PromptEngine

variable {σ α : Type}

/-! ## §1. Observers. -/

/-- The call may proceed, and it is left as it was found.  A hook that gives a table replaces the
arguments, so this leaves only a call with that very table whose arguments were replaced before. -/
structure PreAnswer.Leaves (answer : PreAnswer) (found : Pending) : Prop where
  proceeds : answer.action = .proceed
  table : ∀ arguments, answer.arguments = some arguments →
    found.arguments = arguments ∧ found.replaced = true

/-- The call is over, and it is left as it was found: an error that is there is not taken care
of. -/
structure PostAnswer.Leaves (answer : PostAnswer) (found : Finished) : Prop where
  proceeds : answer.action = .proceed
  arguments : answer.arguments = found.arguments
  result : answer.result = found.result
  error : answer.handled = true → found.error = none

theorem PreAnswer.Leaves.revise_eq {answer : PreAnswer} {found : Pending}
    (h : answer.Leaves found) : found.revise answer = found := by
  unfold Pending.revise
  cases hgiven : answer.arguments with
  | none => rfl
  | some arguments =>
      obtain ⟨harguments, hreplaced⟩ := h.table arguments hgiven
      rw [← harguments, ← hreplaced]

theorem PostAnswer.Leaves.revise_eq {answer : PostAnswer} {found : Finished}
    (h : answer.Leaves found) : found.revise answer = found := by
  have herror : (if answer.handled then none else found.error) = found.error := by
    split
    · exact (h.error ‹_›).symm
    · rfl
  unfold Finished.revise
  rw [h.arguments, h.result, herror]

/-- A hook that only watches. -/
structure Hook.Observes (hook : Hook σ) : Prop where
  before : ∀ d pending s, (hook.before d pending s).1.Leaves pending
  after : ∀ d finished s, (hook.after d finished s).1.Leaves finished

/-- A hook that only watches, with notes `τ` of its own.  It sees the state of the engine and its
notes, and changes only these. -/
structure Observer (σ τ : Type) where
  before : Descriptor → Pending → σ × τ → PreAnswer × τ
  after : Descriptor → Finished → σ × τ → PostAnswer × τ
  leaves_before : ∀ d pending p, (before d pending p).1.Leaves pending
  leaves_after : ∀ d finished p, (after d finished p).1.Leaves finished

/-- An observer as a hook. -/
def Observer.hook {τ : Type} (o : Observer σ τ) : Hook (σ × τ) where
  before d pending p := ((o.before d pending p).1, p.1, (o.before d pending p).2)
  after d finished p := ((o.after d finished p).1, p.1, (o.after d finished p).2)

theorem Observer.observes_hook {τ : Type} (o : Observer σ τ) : o.hook.Observes where
  before := o.leaves_before
  after := o.leaves_after

/-- The hook changes the state only where corresponding states may differ. -/
structure Hook.Unseen (hook : Hook σ) (S : σ → σ → Prop) : Prop where
  before : ∀ d pending s t, S s t → S s (hook.before d pending t).2
  after : ∀ d finished s t, S s t → S s (hook.after d finished t).2

/-! ## §2. Traces with the questions to an observer. -/

/-- The second trace is the first one with questions to a hook put in, inside of calls as well, and
the hook has left all that it found. -/
inductive Watched (id : HookId) : List Event → List Event → Prop
  | nil : Watched id [] []
  | same (event : Event) {rest rest' : List Event} : Watched id rest rest' →
      Watched id (event :: rest) (event :: rest')
  | run (d : Descriptor) (arguments : Arguments) {inner inner' rest rest' : List Event} :
      Watched id inner inner' → Watched id rest rest' →
      Watched id (.run d arguments inner :: rest) (.run d arguments inner' :: rest')
  | body (d : Descriptor) (arguments : Arguments) {inner inner' rest rest' : List Event} :
      Watched id inner inner' → Watched id rest rest' →
      Watched id (.body d arguments inner :: rest) (.body d arguments inner' :: rest')
  | before (d : Descriptor) {found : Pending} {answer : PreAnswer} {rest rest' : List Event} :
      answer.Leaves found → Watched id rest rest' →
      Watched id rest (.before id d found answer :: rest')
  | after (d : Descriptor) {found : Finished} {answer : PostAnswer} {rest rest' : List Event} :
      answer.Leaves found → Watched id rest rest' →
      Watched id rest (.after id d found answer :: rest')

theorem Watched.append {id : HookId} {a a' b b' : List Event} (ha : Watched id a a')
    (hb : Watched id b b') : Watched id (a ++ b) (a' ++ b') := by
  induction ha with
  | nil => exact hb
  | same event _ ih => exact .same event ih
  | run d arguments hinner _ _ ih => exact .run d arguments hinner ih
  | body d arguments hinner _ _ ih => exact .body d arguments hinner ih
  | before d hleaves _ ih => exact .before d hleaves ih
  | after d hleaves _ ih => exact .after d hleaves ih

namespace Correspondence

/-- Traces correspond to themselves with the questions to an observer. -/
def watched (id : HookId) : Correspondence where
  holds := Watched id
  nil := .nil
  append := Watched.append

theorem surrounds_watched (id : HookId) : (watched id).Surrounds where
  before _ _ _ _ := .same _ .nil
  after _ _ _ _ := .same _ .nil
  request _ _ _ _ := .same _ .nil
  fragment _ := .same _ .nil
  run d arguments _ _ hinner := .run d arguments hinner .nil

theorem admits_watched (id : HookId) (d : Descriptor) : (watched id).Admits d where
  call _ := .same _ .nil
  body arguments _ _ hinner := .body d arguments hinner .nil

end Correspondence

mutual

/-- What is found in an event and in those inside it, in order. -/
def Event.collect (find : Event → Option α) : Event → List α
  | .run d arguments inner => (find (.run d arguments inner)).toList ++ collectAll find inner
  | .body d arguments inner => (find (.body d arguments inner)).toList ++ collectAll find inner
  | event => (find event).toList

/-- What is found in a trace, at any depth and in order. -/
def collectAll (find : Event → Option α) : List Event → List α
  | [] => []
  | event :: rest => event.collect find ++ collectAll find rest

end

/-- The function whose body was carried out, and its arguments. -/
def Event.body? : Event → Option (Descriptor × Arguments)
  | .body d arguments _ => some (d, arguments)
  | _ => none

/-- A question to a hook, with its answer. -/
def Event.asked? (hook : HookId) : Event → Option Event
  | .before id d found answer => if id = hook then some (.before id d found answer) else none
  | .after id d found answer => if id = hook then some (.after id d found answer) else none
  | _ => none

/-- The bodies that were carried out, at any depth, with their arguments. -/
def bodies (events : List Event) : List (Descriptor × Arguments) :=
  collectAll Event.body? events

/-- What a hook was asked, at any depth, and what it answered. -/
def asked (hook : HookId) (events : List Event) : List Event :=
  collectAll (Event.asked? hook) events

theorem collectAll_append (find : Event → Option α) (a b : List Event) :
    collectAll find (a ++ b) = collectAll find a ++ collectAll find b := by
  induction a with
  | nil => rfl
  | cons event rest ih => rw [List.cons_append, collectAll, collectAll, ih, List.append_assoc]

/-- **What is found in a trace is found in the watched one**, if it is looked for neither in the
questions to the observer nor in what happened inside an event. -/
theorem collectAll_watched {id : HookId} {find : Event → Option α}
    (hrun : ∀ d arguments inner inner',
      find (.run d arguments inner) = find (.run d arguments inner'))
    (hbody : ∀ d arguments inner inner',
      find (.body d arguments inner) = find (.body d arguments inner'))
    (hbefore : ∀ d found answer, find (.before id d found answer) = none)
    (hafter : ∀ d found answer, find (.after id d found answer) = none)
    {events events' : List Event} (h : Watched id events events') :
    collectAll find events' = collectAll find events := by
  induction h with
  | nil => rfl
  | same event _ ih => rw [collectAll, collectAll, ih]
  | run d arguments _ _ ihinner ih =>
      rw [collectAll, collectAll, Event.collect, Event.collect, ihinner, ih,
        hrun d arguments]
  | body d arguments _ _ ihinner ih =>
      rw [collectAll, collectAll, Event.collect, Event.collect, ihinner, ih,
        hbody d arguments]
  | before d _ _ ih =>
      show (find (.before id d _ _)).toList ++ collectAll find _ = _
      rw [hbefore, ih]
      rfl
  | after d _ _ ih =>
      show (find (.after id d _ _)).toList ++ collectAll find _ = _
      rw [hafter, ih]
      rfl

theorem bodies_watched {id : HookId} {events events' : List Event} (h : Watched id events events') :
    bodies events' = bodies events :=
  collectAll_watched (fun _ _ _ _ => rfl) (fun _ _ _ _ => rfl) (fun _ _ _ => rfl)
    (fun _ _ _ => rfl) h

theorem asked_watched {id other : HookId} (hother : other ≠ id) {events events' : List Event}
    (h : Watched id events events') : asked other events' = asked other events :=
  collectAll_watched (fun _ _ _ _ => rfl) (fun _ _ _ _ => rfl)
    (fun _ _ _ => if_neg hother.symm) (fun _ _ _ => if_neg hother.symm) h

/-! ## §3. One observer among other hooks. -/

namespace Exec

/-- What only the second of two computations records may come before the rest of its trace. -/
theorem rel_behind {β : Type} {S : σ → σ → Prop} {C : Correspondence} {V : α → β → Prop}
    {first : List Event} (hfirst : ∀ events events', C.holds events events' →
      C.holds events (first ++ events'))
    {ending : Option (α × σ × List Event)} {ending' : Option (β × σ × List Event)}
    (h : Option.Rel (fun l r => V l.1 r.1 ∧ S l.2.1 r.2.1 ∧ C.holds l.2.2 r.2.2) ending ending') :
    Option.Rel (fun l r => V l.1 r.1 ∧ S l.2.1 r.2.1 ∧ C.holds l.2.2 r.2.2) ending
      (behind first ending') := by
  cases h with
  | none => exact .none
  | some h => exact .some ⟨h.1, h.2.1, hfirst _ _ h.2.2⟩

/-- Goes on from the end of a computation of which something is known. -/
theorem rel_bind {β γ : Type} {P : γ → α × σ × List Event → Prop}
    {Q : γ → β × σ × List Event → Prop} {came : Option γ} {x : Exec σ α} {f : α → Exec σ β} {s : σ}
    (h : Option.Rel P came (x s))
    (hf : ∀ c a s' events, P c (a, s', events) →
      ∃ b, f a s' = some (b, s', []) ∧ Q c (b, s', events)) :
    Option.Rel Q came ((x >>= f) s) := by
  cases hx : x s with
  | none =>
      rw [hx] at h
      cases h
      rw [bind_of_none hx]
      exact .none
  | some run =>
      obtain ⟨a, s', events⟩ := run
      rw [hx] at h
      cases h with
      | @some c _ h =>
          obtain ⟨b, hb, hQ⟩ := hf c a s' events h
          rw [bind_of_some hx, hb, behind_some, List.append_nil]
          exact .some hQ

end Exec

namespace Engine

variable {S : σ → σ → Prop} {e : Engine σ} {id : HookId} {hook : Hook σ}
  {rest front back : List (HookId × Hook σ)}

/-- Behind an observer the others are asked what it was asked. -/
theorem askBefore_observer (hobserves : hook.Observes) (d : Descriptor) (pending : Pending)
    (s : σ) :
    askBefore d ((id, hook) :: rest) pending s
      = Exec.behind [.before id d pending (hook.before d pending s).1]
          (askBefore d rest pending (hook.before d pending s).2) := by
  have hleaves := hobserves.before d pending s
  rw [askBefore, Exec.act_bind, Exec.emit_bind]
  simp only [hleaves.proceeds, hleaves.revise_eq]

theorem askAfter_observer (hobserves : hook.Observes) (d : Descriptor) (finished : Finished)
    (s : σ) :
    askAfter d ((id, hook) :: rest) finished s
      = Exec.behind [.after id d finished (hook.after d finished s).1]
          (askAfter d rest finished (hook.after d finished s).2) := by
  have hleaves := hobserves.after d finished s
  rw [askAfter, Exec.act_bind, Exec.emit_bind]
  simp only [hleaves.proceeds, hleaves.revise_eq]

section Inserted

variable (hobserves : hook.Observes) (hunseen : hook.Unseen S)
  (hfront : ∀ entry ∈ front, entry.2.Respects S) (hback : ∀ entry ∈ back, entry.2.Respects S)

include hobserves hunseen hfront hback

/-- **A round of hooks before a call** does not notice an observer among them. -/
theorem inStep_askBefore_observer (d : Descriptor) (pending : Pending) :
    (askBefore d (front ++ back) pending).InStep S (.watched id) Eq
      (askBefore d (front ++ (id, hook) :: back) pending) := by
  induction front generalizing pending with
  | nil =>
      intro s t hs
      rw [List.nil_append, List.nil_append, askBefore_observer hobserves]
      refine Exec.rel_behind (fun _ _ => Watched.before d (hobserves.before d pending t)) ?_
      exact steady_askBefore (Correspondence.surrounds_watched id) hback d pending _ _
        (hunseen.before d pending s t hs)
  | cons entry front ih =>
      obtain ⟨hfirst, hfront⟩ := List.forall_mem_cons.mp hfront
      exact inStep_askBefore_cons (Correspondence.surrounds_watched id) hfirst d (ih hfront) pending

/-- **A round of hooks after a call** does not notice an observer among them. -/
theorem inStep_askAfter_observer (d : Descriptor) (finished : Finished) :
    (askAfter d (front ++ back) finished).InStep S (.watched id) Eq
      (askAfter d (front ++ (id, hook) :: back) finished) := by
  induction front generalizing finished with
  | nil =>
      intro s t hs
      rw [List.nil_append, List.nil_append, askAfter_observer hobserves]
      refine Exec.rel_behind (fun _ _ => Watched.after d (hobserves.after d finished t)) ?_
      exact steady_askAfter (Correspondence.surrounds_watched id) hback d finished _ _
        (hunseen.after d finished s t hs)
  | cons entry front ih =>
      obtain ⟨hfirst, hfront⟩ := List.forall_mem_cons.mp hfront
      exact inStep_askAfter_cons (Correspondence.surrounds_watched id) hfirst d (ih hfront) finished

end Inserted

/-! ## §4. Nothing but observers. -/

section Observers

variable {hooks : List (HookId × Hook σ)} (hhooks : ∀ entry ∈ hooks, entry.2.Observes)

/-- The state that hooks leave before a call that they do not change. -/
def stateBefore (d : Descriptor) (hooks : List (HookId × Hook σ)) (pending : Pending) (s : σ) : σ :=
  hooks.foldl (fun s entry => (entry.2.before d pending s).2) s

/-- What an invocation comes to if no hook has a say in it. -/
def settle (d : Descriptor) : Except EngineError FunctionResult → Except EngineError Outcome
  | .ok result => .ok (.completed result)
  | .error error => .error (.execution d.qualifiedName error)

/-- An invocation is its body and nothing else: it has the body's outcome, and of all bodies that
were carried out only this one was not carried out inside it. -/
structure BodyAlone (f : Function σ) (arguments : Arguments)
    (came : Except EngineError FunctionResult × σ × List Event)
    (run : Except EngineError Outcome × σ × List Event) : Prop where
  outcome : run.1 = settle f.descriptor came.1
  bodies : bodies run.2.2 = (f.descriptor, arguments) :: bodies came.2.2

/-- A call that the hooks have left as it was is judged by its own outcome. -/
theorem judge_ofOutcome (d : Descriptor) (arguments : Arguments)
    (outcome : Except EngineError FunctionResult) :
    judge d .proceed (.ofOutcome arguments outcome) = .over (settle d outcome) := by
  cases outcome <;> rfl

include hhooks

theorem askBefore_observers (d : Descriptor) (pending : Pending) (s : σ) :
    ∃ events, askBefore d hooks pending s
        = some ((.proceed, pending), stateBefore d hooks pending s, events) ∧
      bodies events = [] := by
  induction hooks generalizing s with
  | nil => exact ⟨[], rfl, rfl⟩
  | cons entry rest ih =>
      obtain ⟨id, hook⟩ := entry
      obtain ⟨hhook, hrest⟩ := List.forall_mem_cons.mp hhooks
      obtain ⟨events, hasked, hbodies⟩ := ih hrest (hook.before d pending s).2
      refine ⟨.before id d pending (hook.before d pending s).1 :: events, ?_, hbodies⟩
      rw [askBefore_observer hhook, hasked]
      rfl

theorem askAfter_observers (d : Descriptor) (finished : Finished) (s : σ) :
    ∃ s' events, askAfter d hooks finished s = some ((.proceed, finished), s', events) ∧
      bodies events = [] := by
  induction hooks generalizing s with
  | nil => exact ⟨s, [], rfl, rfl⟩
  | cons entry rest ih =>
      obtain ⟨id, hook⟩ := entry
      obtain ⟨hhook, hrest⟩ := List.forall_mem_cons.mp hhooks
      obtain ⟨s', events, hasked, hbodies⟩ := ih hrest (hook.after d finished s).2
      refine ⟨s', .after id d finished (hook.after d finished s).1 :: events, ?_, hbodies⟩
      rw [askAfter_observer hhook, hasked]
      rfl

variable (body : Caller σ FunctionResult) (f : Function σ) (arguments : Arguments) (s : σ)

/-- An attempt among observers is its body. -/
theorem attempt_observers :
    Option.Rel (fun came run => run.1 = .over (settle f.descriptor came.1) ∧
        bodies run.2.2 = (f.descriptor, arguments) :: bodies came.2.2)
      (body f arguments (stateBefore f.descriptor hooks { arguments } s))
      (attempt hooks body f arguments s) := by
  obtain ⟨before, hbefore, hnone⟩ := askBefore_observers hhooks f.descriptor { arguments } s
  unfold attempt
  rw [Exec.bind_of_some hbefore]
  cases hbody : body f arguments (stateBefore f.descriptor hooks { arguments } s) with
  | none =>
      show Option.Rel _ none (Exec.behind _ ((Exec.inside _ _ >>= _) _))
      rw [Exec.bind_of_none (Exec.inside_of_none hbody)]
      exact .none
  | some came =>
      obtain ⟨outcome, s₁, inner⟩ := came
      obtain ⟨s', after, hafter, hnone'⟩ :=
        askAfter_observers hhooks f.descriptor (.ofOutcome arguments outcome) s₁
      show Option.Rel _ _ (Exec.behind _ ((Exec.inside _ _ >>= _) _))
      rw [Exec.bind_of_some (Exec.inside_of_some hbody), Exec.bind_of_some hafter]
      refine .some ⟨judge_ofOutcome f.descriptor arguments outcome, ?_⟩
      -- Of the whole trace only the event of the body has bodies in it.
      unfold bodies at hnone hnone' ⊢
      show collectAll _ (before ++ ([.body f.descriptor arguments inner] ++ (after ++ []))) = _
      rw [collectAll_append, collectAll_append, collectAll_append, hnone, hnone']
      simp [collectAll, Event.collect, Event.body?]

/-- **Among observers a call is its body**, carried out once with the arguments that were given. -/
theorem attempts_observers (repeats : Nat) :
    Option.Rel (BodyAlone f arguments)
      (body f arguments (stateBefore f.descriptor hooks { arguments } s))
      (attempts hooks body f repeats arguments s) := by
  have hattempt := attempt_observers hhooks body f arguments s
  -- The first attempt is over, so it does not matter how many are allowed.
  cases repeats with
  | zero =>
      refine Exec.rel_bind hattempt ?_
      rintro came _ s' events ⟨rfl, hbodies⟩
      exact ⟨_, rfl, ⟨rfl, hbodies⟩⟩
  | succ repeats =>
      refine Exec.rel_bind hattempt ?_
      rintro came _ s' events ⟨rfl, hbodies⟩
      exact ⟨_, rfl, ⟨rfl, hbodies⟩⟩

/-- An invocation among observers is its body. -/
theorem caller_observers (e : Engine σ) (depth : Nat) :
    Option.Rel (BodyAlone f arguments)
      ((e.withHooks hooks).carryOut ((e.withHooks hooks).caller depth) f arguments
        (stateBefore f.descriptor hooks { arguments } s))
      ((e.withHooks hooks).caller (depth + 1) f arguments s) := by
  have hattempts := attempts_observers hhooks
    ((e.withHooks hooks).carryOut ((e.withHooks hooks).caller depth)) f arguments s
    e.config.maxRepeats
  show Option.Rel _ _ (Exec.inside (.run f.descriptor arguments)
    (attempts hooks _ f e.config.maxRepeats arguments) s)
  unfold Exec.inside
  generalize attempts hooks _ f e.config.maxRepeats arguments s = ending,
    Engine.carryOut _ _ f arguments _ = came at hattempts ⊢
  cases hattempts with
  | none => exact .none
  | some h =>
      refine .some ⟨h.outcome, ?_⟩
      rw [← h.bodies]
      simp [bodies, collectAll, Event.collect, Event.body?]

end Observers

/-! ## §5. Whole invocations. -/

/-- **An observer whose notes nobody sees** is not noticed.  If the notes are kept apart, `S` is
agreement on the rest of the state, and if there are none, `S` may be equality, and then nothing is
asked of the others. -/
theorem inStep_caller_observer (he : e.Respects S) (hhooks : e.hooks = front ++ back)
    (hobserves : hook.Observes) (hunseen : hook.Unseen S) (depth : Nat) {f : Function σ}
    (hf : f.Respects S) (arguments : Arguments) :
    (e.caller depth f arguments).InStep S (.watched id) Eq
      ((e.withHooks (front ++ (id, hook) :: back)).caller depth f arguments) := by
  have hall := he.hooks
  rw [hhooks] at hall
  obtain ⟨hfront, hback⟩ := List.forall_mem_append.mp hall
  refine inStep_caller (Correspondence.surrounds_watched id)
    (Correspondence.admits_watched id) he ?_ ?_ depth f hf arguments
  · rw [hhooks]
    exact inStep_askBefore_observer hobserves hunseen hfront hback
  · rw [hhooks]
    exact inStep_askAfter_observer hobserves hunseen hfront hback

section Notes

variable {τ : Type}

/-- States that agree but for the notes beside them. -/
def SameBut (τ : Type) (p q : σ × τ) : Prop :=
  p.1 = q.1

theorem respects_onFirst {α : Type} (act : σ → α × σ) :
    PromptEngine.Respects (SameBut τ) (onFirst τ act) := by
  rintro ⟨s, _⟩ ⟨_, _⟩ rfl
  exact ⟨rfl, rfl⟩

theorem respects_function (f : Function σ) : (f.beside τ).Respects (SameBut τ) := by
  unfold Function.Respects Function.beside
  cases f.body with
  | native compute => exact fun _ => respects_onFirst _
  | prompt template settings => trivial

/-- **No part of an engine sees what is beside its state.** -/
theorem respects_beside (e : Engine σ) : (e.beside τ).Respects (SameBut τ) where
  functions g hg := by
    rw [show (e.beside τ).registry.functions = _ from Registry.functions_beside e.registry] at hg
    obtain ⟨f, -, rfl⟩ := List.mem_map.mp hg
    exact respects_function f
  hooks entry hentry := by
    obtain ⟨entry, -, rfl⟩ := List.mem_map.mp hentry
    exact ⟨fun _ _ => respects_onFirst _, fun _ _ => respects_onFirst _⟩
  services service hservice := by
    rw [show (e.beside τ).services.values = _ from Table.values_map _ e.services] at hservice
    obtain ⟨service, -, rfl⟩ := List.mem_map.mp hservice
    exact ⟨fun _ => respects_onFirst _, fun _ => respects_onFirst _⟩

theorem unseen_observer (o : Observer σ τ) : o.hook.Unseen (SameBut τ) where
  before _ _ _ _ hs := hs
  after _ _ _ _ hs := hs

/-- The engine in a state with room for notes, and with an observer that takes them at some place
among its hooks. -/
def observed (e : Engine σ) (place : Nat) (id : HookId) (o : Observer σ τ) : Engine (σ × τ) :=
  (e.beside τ).withHooks
    (hooksBeside τ (e.hooks.take place) ++ (id, o.hook) :: hooksBeside τ (e.hooks.drop place))

/-- What an invocation and a watched one have in common. -/
structure Unnoticed (id : HookId) (run : Except EngineError Outcome × σ × List Event)
    (run' : Except EngineError Outcome × (σ × τ) × List Event) : Prop where
  /-- They have the same outcome, or fail with the same error. -/
  outcome : run'.1 = run.1
  /-- They leave the same state. -/
  state : run'.2.1.1 = run.2.1
  /-- Only the questions to the observer are new. -/
  traces : Watched id run.2.2 run'.2.2
  /-- As many bodies were carried out, with the same arguments. -/
  bodies : bodies run'.2.2 = bodies run.2.2
  /-- Each of the other hooks found the same and answered the same. -/
  others : ∀ other, other ≠ id → asked other run'.2.2 = asked other run.2.2

/-- **A hook that only watches is not noticed.**  Put an observer at any place among the hooks of
any engine.  From every state and whatever it has noted before, every invocation, at any depth,
comes to an end with it exactly if it does without it, and then with the same outcome or error, the
same state, the same bodies with the same arguments, and the same questions to the other hooks and
answers of theirs.  If all hooks are observers, an invocation is completed with the result of the
body, or it fails with the body's error under the qualified name of the function, and the body is
carried out once with the arguments of the invocation; this holds even if they change the state that
the body finds. -/
theorem caller_unnoticed (e : Engine σ) (place : Nat) (id : HookId) (o : Observer σ τ)
    (depth : Nat) (f : Function σ) (arguments : Arguments) (s : σ) (notes : τ) :
    Option.Rel (Unnoticed id) (e.caller depth f arguments s)
      ((e.observed place id o).caller depth (f.beside τ) arguments (s, notes)) ∧
    ∀ observers : List (HookId × Hook σ), (∀ entry ∈ observers, entry.2.Observes) →
      Option.Rel (BodyAlone f arguments)
        ((e.withHooks observers).carryOut ((e.withHooks observers).caller depth) f arguments
          (stateBefore f.descriptor observers { arguments } s))
        ((e.withHooks observers).caller (depth + 1) f arguments s) := by
  refine ⟨?_, fun observers hobservers => caller_observers hobservers f arguments s e depth⟩
  have hhooks : (e.beside τ).hooks
      = hooksBeside τ (e.hooks.take place) ++ hooksBeside τ (e.hooks.drop place) := by
    unfold hooksBeside
    rw [← List.map_append, List.take_append_drop]
    rfl
  -- Beside room for notes the engine does what it does, and there it keeps step.
  have hinStep : ((e.beside τ).caller depth (f.beside τ) arguments).InStep (SameBut τ) (.watched id)
      Eq ((e.observed place id o).caller depth (f.beside τ) arguments) :=
    inStep_caller_observer (respects_beside e) hhooks o.observes_hook (unseen_observer o) depth
      (respects_function f) arguments
  have hends := hinStep (s, notes) (s, notes) rfl
  rw [caller_beside, Exec.beside] at hends
  generalize e.caller depth f arguments s = ending at hends ⊢
  generalize (e.observed place id o).caller depth (f.beside τ) arguments (s, notes) = ending'
    at hends ⊢
  cases ending with
  | none =>
      cases hends
      exact .none
  | some run =>
      cases hends with
      | some h =>
          obtain ⟨houtcome, hstate, htraces⟩ := h
          exact .some ⟨houtcome.symm, hstate.symm, htraces, bodies_watched htraces,
            fun other hother => asked_watched hother htraces⟩

/-- An observer that counts how often it is asked. -/
def clicker : Observer Nat Nat where
  before _ _ p := ({}, p.2 + 1)
  after _ found p := (.keep found, p.2 + 1)
  leaves_before _ _ _ := ⟨rfl, fun _ h => by contradiction⟩
  leaves_after _ _ _ := ⟨rfl, rfl, rfl, fun h => by contradiction⟩

/-- A hook that gives a call its number as an argument. -/
def numbering : Hook Nat where
  before _ found s :=
    ({ arguments := some (found.arguments.insert "n" (.number (.integer s))) }, s)

/-- A hook that clears errors and wants every call to be made again. -/
def tireless : Hook Nat where
  after _ found s := ({ PostAnswer.keep found with action := .again none, handled := true }, s)

/-- A function that lets the second call through. -/
def turnstile : Function Nat :=
  { descriptor := { name := "turnstile" }
    body := .native fun _ s =>
      (if s = 1 then .ok .null else .error (.service "closed"), s + 1) }

/-- An engine with two hooks that have their say. -/
def gate : Engine Nat :=
  { hooks := [(⟨0⟩, numbering), (⟨2⟩, tireless)], config := { maxRepeats := 2 } }

/-- A hook that only watches, and has no notes. -/
def bystander : Hook Nat := {}

theorem caller_unnoticed_gate :
    (∃ run run', Unnoticed ⟨1⟩ run run' ∧
      gate.caller 1 turnstile {} 0 = some run ∧
      (gate.observed 1 ⟨1⟩ clicker).caller 1 (turnstile.beside Nat) {} (0, 0) = some run' ∧
      run'.2.1 = (3, 6) ∧ (bodies run'.2.2).length = 3) ∧
    (∀ entry ∈ [((⟨1⟩ : HookId), bystander)], entry.2.Observes) ∧
    ∃ came run, BodyAlone turnstile {} came run ∧
      (gate.withHooks [(⟨1⟩, bystander)]).caller 1 turnstile {} 0 = some run := by
  have hbystander : ∀ entry ∈ [((⟨1⟩ : HookId), bystander)], entry.2.Observes :=
    List.forall_mem_singleton.mpr ⟨fun _ _ _ => ⟨rfl, fun _ h => by contradiction⟩,
      fun _ _ _ => ⟨rfl, rfl, rfl, fun h => by contradiction⟩⟩
  refine ⟨?_, hbystander, ?_⟩
  · have hrel := (caller_unnoticed gate 1 ⟨1⟩ clicker 1 turnstile {} 0 0).1
    have hcounts : ((gate.observed 1 ⟨1⟩ clicker).caller 1 (turnstile.beside Nat) {} (0, 0)).map
        (fun run => (run.2.1, (bodies run.2.2).length)) = some ((3, 6), 3) := by
      decide +kernel
    obtain ⟨run', hrun', hcount⟩ := Option.map_eq_some_iff.mp hcounts
    rw [hrun'] at hrel
    generalize gate.caller 1 turnstile {} 0 = ending at hrel ⊢
    cases hrel with
    | some h =>
        obtain ⟨hstate, hbodies⟩ := Prod.mk.inj hcount
        exact ⟨_, run', h, rfl, hrun', hstate, hbodies⟩
  · have hends : ((gate.withHooks [(⟨1⟩, bystander)]).caller 1 turnstile {} 0).isSome = true := by
      decide +kernel
    obtain ⟨run, hrun⟩ := Option.isSome_iff_exists.mp hends
    have hrel := (caller_unnoticed gate 1 ⟨1⟩ clicker 0 turnstile {} 0 0).2 _ hbystander
    rw [hrun] at hrel
    generalize carryOut _ _ turnstile {} _ = ending at hrel
    cases hrel with
    | some h => exact ⟨_, run, h, hrun⟩

end Notes

end Engine

end PromptEngine
