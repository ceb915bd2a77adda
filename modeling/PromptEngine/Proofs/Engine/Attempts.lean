/-
  PromptEngine.Proofs.Engine.Attempts — the grammar of an invocation.

  An invocation is a row of attempts.  In an attempt hooks are asked, in the order in which they
  were added and up to the first one that does not want to proceed; if all of them want to, the
  body is carried out and the hooks are asked again in the same way.  The trace of an invocation
  is described by records of what was asked and answered (`Asked`, `Attempt`), and relations say
  how hooks and bodies that act on a state come to such a record (`HookRound`, `Attempt.Made`,
  `Attempts`).

  Main results:
    * `attempts_step` — one attempt, and either its outcome or another attempt,
    * `runFunction_attempts` — a whole invocation is a bounded row of regular attempts.
-/
import Mathlib.Data.List.Basic
import PromptEngine.Engine.Invoke
import PromptEngine.Proofs.Engine.Exec

namespace PromptEngine

variable {σ φ α β : Type}

/-! ## §1. Rounds of hooks. -/

/-- A question to a hook: what it was asked about, and what it answered. -/
structure Asked (φ α : Type) where
  hook : HookId
  found : φ
  answer : α

/-- How a round of hooks may go.  `ask` asks a hook, `action` is what an answer wants, and
`revise` is what it leaves for the next hook.  The round ends behind the first hook that does not
want to proceed; it leaves what that hook wants and what all answers have made of `φ`. -/
inductive HookRound (ask : Hook σ → φ → σ → α × σ) (action : α → β) (proceed : β)
    (revise : φ → α → φ) :
    List (HookId × Hook σ) → φ → σ → List (Asked φ α) → β × φ → σ → Prop where
  | done {found : φ} {s : σ} :
      HookRound ask action proceed revise [] found s [] (proceed, found) s
  | next {id : HookId} {hook : Hook σ} {rest : List (HookId × Hook σ)} {found : φ} {s s' : σ}
      {asked : List (Asked φ α)} {left : β × φ} :
      action (ask hook found s).1 = proceed →
      HookRound ask action proceed revise rest (revise found (ask hook found s).1)
        (ask hook found s).2 asked left s' →
      HookRound ask action proceed revise ((id, hook) :: rest) found s
        (⟨id, found, (ask hook found s).1⟩ :: asked) left s'
  | stop {id : HookId} {hook : Hook σ} {rest : List (HookId × Hook σ)} {found : φ} {s : σ} :
      action (ask hook found s).1 ≠ proceed →
      HookRound ask action proceed revise ((id, hook) :: rest) found s
        [⟨id, found, (ask hook found s).1⟩]
        (action (ask hook found s).1, revise found (ask hook found s).1) (ask hook found s).2

/-- Hooks were asked in their order, each but the last wanted to proceed, and only the wish of the
last one not to proceed kept the others from being asked. -/
structure UpToFirst (proceeds : α → Prop) (hooks : List HookId) (asked : List (Asked φ α)) :
    Prop where
  inOrder : asked.map (·.hook) <+: hooks
  earlier : ∀ q ∈ asked.dropLast, proceeds q.answer
  last : asked.length < hooks.length → ∃ q ∈ asked.getLast?, ¬ proceeds q.answer

namespace HookRound

variable {ask : Hook σ → φ → σ → α × σ} {action : α → β} {proceed : β} {revise : φ → α → φ}
  {hooks : List (HookId × Hook σ)} {found : φ} {s s' : σ} {asked : List (Asked φ α)}
  {left : β × φ}

/-- A round goes on behind its last hook exactly if all hooks wanted to proceed. -/
theorem proceed_iff (h : HookRound ask action proceed revise hooks found s asked left s') :
    left.1 = proceed ↔ ∀ q ∈ asked, action q.answer = proceed := by
  induction h with
  | done => simp
  | next hproceed _ ih =>
      rw [ih, List.forall_mem_cons]
      exact ⟨fun h => ⟨hproceed, h⟩, fun h => h.2⟩
  | stop hstop => simp

theorem upToFirst (h : HookRound ask action proceed revise hooks found s asked left s') :
    UpToFirst (fun answer => action answer = proceed) (hooks.map Prod.fst) asked := by
  induction h with
  | done =>
      exact ⟨List.nil_prefix, fun q hq => absurd hq List.not_mem_nil,
        fun h => absurd h (Nat.lt_irrefl 0)⟩
  | @next id hook rest found s s' asked left hproceed _ ih =>
      obtain ⟨horder, hearlier, hlast⟩ := ih
      refine ⟨?_, ?_, ?_⟩
      · exact List.prefix_cons_inj id |>.mpr horder
      · cases asked with
        | nil => exact fun q hq => absurd hq List.not_mem_nil
        | cons q asked =>
            rw [List.dropLast_cons_cons]
            exact List.forall_mem_cons.mpr ⟨hproceed, hearlier⟩
      · intro hlength
        obtain ⟨q, hq, hstop⟩ := hlast (by simpa using hlength)
        refine ⟨q, ?_, hstop⟩
        cases asked with
        | nil => contradiction
        | cons _ _ => rwa [List.getLast?_cons_cons]
  | @stop id hook rest found s hstop =>
      refine ⟨?_, fun q hq => absurd hq List.not_mem_nil, fun _ => ⟨_, rfl, hstop⟩⟩
      exact List.prefix_cons_inj id |>.mpr List.nil_prefix

/-- A computation that asks one hook after the other, up to the first that does not want to
proceed, always comes to an end, and it is a round. -/
theorem exists_of_step {run : List (HookId × Hook σ) → φ → Exec σ (β × φ)}
    {event : Asked φ α → Event}
    (hdone : ∀ found s, run [] found s = some ((proceed, found), s, []))
    (hnext : ∀ id hook rest found s, action (ask hook found s).1 = proceed →
      run ((id, hook) :: rest) found s
        = Exec.behind [event ⟨id, found, (ask hook found s).1⟩]
            (run rest (revise found (ask hook found s).1) (ask hook found s).2))
    (hstop : ∀ id hook rest found s, action (ask hook found s).1 ≠ proceed →
      run ((id, hook) :: rest) found s
        = some ((action (ask hook found s).1, revise found (ask hook found s).1),
            (ask hook found s).2, [event ⟨id, found, (ask hook found s).1⟩])) :
    ∀ (hooks : List (HookId × Hook σ)) (found : φ) (s : σ), ∃ asked left s',
      HookRound ask action proceed revise hooks found s asked left s' ∧
        run hooks found s = some (left, s', asked.map event) := by
  intro hooks
  induction hooks with
  | nil => exact fun found s => ⟨[], _, s, .done, hdone found s⟩
  | cons entry rest ih =>
      intro found s
      obtain ⟨id, hook⟩ := entry
      by_cases hproceed : action (ask hook found s).1 = proceed
      · -- The hooks behind this one find what its answer has made of the call.
        obtain ⟨asked, left, s', hround, hrest⟩ :=
          ih (revise found (ask hook found s).1) (ask hook found s).2
        refine ⟨_, left, s', .next hproceed hround, ?_⟩
        rw [hnext id hook rest found s hproceed, hrest, Exec.behind_some]
        rfl
      · exact ⟨_, _, _, .stop hproceed, hstop id hook rest found s hproceed⟩

end HookRound

/-- The hooks that are asked before a call of a function. -/
abbrev BeforeRound (d : Descriptor) :
    List (HookId × Hook σ) → Pending → σ → List (Asked Pending PreAnswer) →
      PreAction × Pending → σ → Prop :=
  HookRound (fun hook => hook.before d) PreAnswer.action .proceed Pending.revise

/-- The hooks that are asked after a call of a function. -/
abbrev AfterRound (d : Descriptor) :
    List (HookId × Hook σ) → Finished → σ → List (Asked Finished PostAnswer) →
      PostAction × Finished → σ → Prop :=
  HookRound (fun hook => hook.after d) PostAnswer.action .proceed Finished.revise

/-- The event of a question before a call. -/
def Asked.beforeEvent (d : Descriptor) (q : Asked Pending PreAnswer) : Event :=
  .before q.hook d q.found q.answer

/-- The event of a question after a call. -/
def Asked.afterEvent (d : Descriptor) (q : Asked Finished PostAnswer) : Event :=
  .after q.hook d q.found q.answer

namespace Engine

/-- Asking hooks before a call always comes to an end, and it is a round. -/
theorem askBefore_spec (d : Descriptor) (hooks : List (HookId × Hook σ)) (pending : Pending)
    (s : σ) :
    ∃ asked left s', BeforeRound d hooks pending s asked left s' ∧
      askBefore d hooks pending s = some (left, s', asked.map (·.beforeEvent d)) := by
  refine HookRound.exists_of_step (fun _ _ => rfl) ?_ ?_ hooks pending s
  · intro id hook rest pending s hproceed
    rw [askBefore, Exec.act_bind, Exec.emit_bind]
    simp only [hproceed]
    rfl
  · intro id hook rest pending s hstop
    rw [askBefore, Exec.act_bind, Exec.emit_bind]
    cases haction : (hook.before d pending s).1.action with
    | proceed => exact absurd haction hstop
    | cancel => rfl
    | skip => rfl

/-- Asking hooks after a call always comes to an end, and it is a round. -/
theorem askAfter_spec (d : Descriptor) (hooks : List (HookId × Hook σ)) (finished : Finished)
    (s : σ) :
    ∃ asked left s', AfterRound d hooks finished s asked left s' ∧
      askAfter d hooks finished s = some (left, s', asked.map (·.afterEvent d)) := by
  refine HookRound.exists_of_step (fun _ _ => rfl) ?_ ?_ hooks finished s
  · intro id hook rest finished s hproceed
    rw [askAfter, Exec.act_bind, Exec.emit_bind]
    simp only [hproceed]
    rfl
  · intro id hook rest finished s hstop
    rw [askAfter, Exec.act_bind, Exec.emit_bind]
    cases haction : (hook.after d finished s).1.action with
    | proceed => exact absurd haction hstop
    | cancel => rfl
    | again replacement => rfl

end Engine

/-! ## §2. Attempts. -/

/-- Whether an event is a body that was carried out. -/
def Event.isBody : Event → Bool
  | .body _ _ _ => true
  | _ => false

/-- A body that was carried out: its arguments, its outcome and the events inside it, the hooks
that were asked after it, and what they left. -/
structure BodyRun where
  arguments : Arguments
  outcome : Except EngineError FunctionResult
  inner : List Event
  after : List (Asked Finished PostAnswer)
  action : PostAction
  finished : Finished

/-- An attempt: its arguments, the hooks that were asked before the call, what they left, and the
body if it was carried out. -/
structure Attempt where
  start : Arguments
  before : List (Asked Pending PreAnswer)
  action : PreAction
  pending : Pending
  run : Option BodyRun

namespace Attempt

/-- The trace of an attempt. -/
def events (d : Descriptor) (a : Attempt) : List Event :=
  a.before.map (·.beforeEvent d) ++
    a.run.elim [] fun r => .body d r.arguments r.inner :: r.after.map (·.afterEvent d)

/-- What an attempt comes to. -/
def verdict (d : Descriptor) (a : Attempt) : Engine.Verdict :=
  match a.run, a.action with
  | some r, _ => Engine.judge d r.action r.finished
  | none, .cancel => .over (.ok (.cancelled none))
  | none, _ => .over (.ok .skipped)

/-- The hooks after the body ended with the wish for another attempt, and no error is left. -/
def AsksAgain (a : Attempt) : Prop :=
  ∃ r ∈ a.run, (∃ replacement, r.action = .again replacement) ∧ r.finished.error = none

/-- The grammar of an attempt: hooks are asked in their order up to the first that does not want
to proceed, before the call and, if there is one, after it; there is a call exactly if all hooks
before it wanted to proceed. -/
structure Regular (hooks : List HookId) (a : Attempt) : Prop where
  before : UpToFirst (·.action = .proceed) hooks a.before
  run_iff : a.run.isSome ↔ ∀ q ∈ a.before, q.answer.action = .proceed
  after : ∀ r ∈ a.run, UpToFirst (·.action = .proceed) hooks r.after

/-- How an attempt comes about. -/
inductive Made (hooks : List (HookId × Hook σ)) (body : Caller σ FunctionResult)
    (f : Function σ) : σ → Attempt → σ → Prop where
  /-- A hook keeps the body from being carried out. -/
  | stopped {s s' : σ} {start : Arguments} {before : List (Asked Pending PreAnswer)}
      {action : PreAction} {pending : Pending} :
      BeforeRound f.descriptor hooks { arguments := start } s before (action, pending) s' →
      action ≠ .proceed →
      Made hooks body f s ⟨start, before, action, pending, none⟩ s'
  /-- The body is carried out, with the arguments that the hooks left. -/
  | called {s s₁ s₂ s' : σ} {start : Arguments} {before : List (Asked Pending PreAnswer)}
      {pending : Pending} {outcome : Except EngineError FunctionResult} {inner : List Event}
      {after : List (Asked Finished PostAnswer)} {action : PostAction} {finished : Finished} :
      BeforeRound f.descriptor hooks { arguments := start } s before (.proceed, pending) s₁ →
      body f pending.arguments s₁ = some (outcome, s₂, inner) →
      AfterRound f.descriptor hooks (.ofOutcome pending.arguments outcome) s₂ after
        (action, finished) s' →
      Made hooks body f s
        ⟨start, before, .proceed, pending,
          some ⟨pending.arguments, outcome, inner, after, action, finished⟩⟩ s'

end Attempt

namespace Engine.Verdict

/-- The arguments of the attempt that is wanted, if one is. -/
def next? : Verdict → Option Arguments
  | .over _ => none
  | .again arguments _ => some arguments

/-- The outcome if there is no other attempt. -/
def outcome : Verdict → Except EngineError Outcome
  | .over outcome => outcome
  | .again _ otherwise => .ok otherwise

end Engine.Verdict

namespace Attempt

theorem asksAgain_iff (d : Descriptor) {a : Attempt} :
    a.AsksAgain ↔ (a.verdict d).next?.isSome := by
  obtain ⟨start, before, action, pending, run⟩ := a
  cases run with
  | none => cases action <;> simp [AsksAgain, verdict, Engine.Verdict.next?]
  | some r =>
      obtain ⟨arguments, outcome, inner, after, action, ⟨left, result, error⟩⟩ := r
      cases error with
      | some error => simp [AsksAgain, verdict, Engine.judge, Engine.Verdict.next?]
      | none => cases action <;> simp [AsksAgain, verdict, Engine.judge, Engine.Verdict.next?]

theorem Made.regular {hooks : List (HookId × Hook σ)} {body : Caller σ FunctionResult}
    {f : Function σ} {s s' : σ} {a : Attempt} (h : a.Made hooks body f s s') :
    a.Regular (hooks.map Prod.fst) := by
  cases h with
  | stopped hbefore hstop =>
      refine ⟨hbefore.upToFirst, ?_, fun r hr => absurd hr (Option.not_mem_none r)⟩
      rw [← hbefore.proceed_iff]
      exact ⟨fun h => by contradiction, fun h => absurd h hstop⟩
  | called hbefore _ hafter =>
      refine ⟨hbefore.upToFirst, ?_, ?_⟩
      · rw [← hbefore.proceed_iff]
        exact ⟨fun _ => rfl, fun _ => rfl⟩
      · rintro r ⟨⟩
        exact hafter.upToFirst

/-- The body is carried out at most once in an attempt. -/
theorem countP_isBody_events (d : Descriptor) (a : Attempt) :
    (a.events d).countP Event.isBody ≤ 1 := by
  have hbefore : (a.before.map (·.beforeEvent d)).countP Event.isBody = 0 := by
    rw [List.countP_map]
    exact List.countP_eq_zero.mpr fun q _ => Bool.false_ne_true
  unfold events
  rw [List.countP_append, hbefore]
  cases a.run with
  | none => simp
  | some r =>
      have hafter : (r.after.map (·.afterEvent d)).countP Event.isBody = 0 := by
        rw [List.countP_map]
        exact List.countP_eq_zero.mpr fun q _ => Bool.false_ne_true
      rw [Option.elim_some, List.countP_cons, hafter]
      exact Nat.le_refl 1

end Attempt

/-! ## §3. Rows of attempts. -/

/-- How a row of attempts comes about: each asks for the next one, and the state goes through. -/
inductive Attempts (hooks : List (HookId × Hook σ)) (body : Caller σ FunctionResult)
    (f : Function σ) : σ → List Attempt → σ → Prop where
  | last {s s' : σ} {a : Attempt} : a.Made hooks body f s s' → Attempts hooks body f s [a] s'
  | again {s s₁ s' : σ} {a b : Attempt} {rest : List Attempt} :
      a.Made hooks body f s s₁ → (a.verdict f.descriptor).next? = some b.start →
      Attempts hooks body f s₁ (b :: rest) s' → Attempts hooks body f s (a :: b :: rest) s'

namespace Engine

variable {hooks : List (HookId × Hook σ)} {body : Caller σ FunctionResult} {f : Function σ}

/-- **One attempt.**  Unless the body does not return, it is made as the grammar says. -/
theorem attempt_spec (hooks : List (HookId × Hook σ)) (body : Caller σ FunctionResult)
    (f : Function σ) (arguments : Arguments) (s : σ) :
    ((∃ given s₁, body f given s₁ = none) ∧ attempt hooks body f arguments s = none) ∨
      ∃ (a : Attempt) (s' : σ), a.Made hooks body f s s' ∧ a.start = arguments ∧
        attempt hooks body f arguments s
          = some (a.verdict f.descriptor, s', a.events f.descriptor) := by
  obtain ⟨before, ⟨action, pending⟩, s₁, hbefore, hasked⟩ :=
    askBefore_spec f.descriptor hooks { arguments } s
  unfold attempt
  rw [Exec.bind_of_some hasked]
  cases action with
  | cancel => exact Or.inr ⟨_, s₁, .stopped hbefore nofun, rfl, rfl⟩
  | skip => exact Or.inr ⟨_, s₁, .stopped hbefore nofun, rfl, rfl⟩
  | proceed =>
      cases hbody : body f pending.arguments s₁ with
      | none =>
          -- The body does not return, and with it the attempt does not.
          refine Or.inl ⟨⟨_, _, hbody⟩, ?_⟩
          show Exec.behind _ ((Exec.inside _ _ >>= _) s₁) = none
          rw [Exec.bind_of_none (Exec.inside_of_none hbody)]
          rfl
      | some r =>
          obtain ⟨outcome, s₂, inner⟩ := r
          obtain ⟨after, ⟨action, finished⟩, s₃, hafter, hasked⟩ :=
            askAfter_spec f.descriptor hooks (.ofOutcome pending.arguments outcome) s₂
          refine Or.inr ⟨_, s₃, .called hbefore hbody hafter, rfl, ?_⟩
          show Exec.behind _ ((Exec.inside _ _ >>= _) s₁) = _
          rw [Exec.bind_of_some (Exec.inside_of_some hbody), Exec.bind_of_some hasked]
          simp [Exec.pure_apply, Exec.behind_some, Attempt.events, Attempt.verdict]

/-- **The next attempt.**  An attempt that asks for another one is followed by it if that is
allowed; else its outcome is that of the invocation. -/
theorem attempts_step (hooks : List (HookId × Hook σ)) (body : Caller σ FunctionResult)
    (f : Function σ) (repeats : Nat) (arguments : Arguments) (s : σ) :
    ((∃ given s₁, body f given s₁ = none) ∧ attempts hooks body f repeats arguments s = none) ∨
      ∃ (a : Attempt) (s₁ : σ), a.Made hooks body f s s₁ ∧ a.start = arguments ∧
        attempts hooks body f repeats arguments s =
          match (a.verdict f.descriptor).next?, repeats with
          | some next, repeats + 1 =>
            Exec.behind (a.events f.descriptor) (attempts hooks body f repeats next s₁)
          | _, _ => some ((a.verdict f.descriptor).outcome, s₁, a.events f.descriptor) := by
  obtain ⟨hnone, hattempt⟩ | ⟨a, s₁, hmade, hstart, hattempt⟩ :=
    attempt_spec hooks body f arguments s
  · refine Or.inl ⟨hnone, ?_⟩
    cases repeats <;> exact Exec.bind_of_none hattempt
  · refine Or.inr ⟨a, s₁, hmade, hstart, ?_⟩
    cases repeats with
    | zero =>
        rw [attempts, Exec.bind_of_some hattempt]
        cases a.verdict f.descriptor <;>
          simp [Engine.Verdict.next?, Engine.Verdict.outcome, Exec.pure_apply]
    | succ repeats =>
        rw [attempts, Exec.bind_of_some hattempt]
        cases a.verdict f.descriptor <;>
          simp [Engine.Verdict.next?, Engine.Verdict.outcome, Exec.pure_apply]

/-- A row of attempts comes to an end if its bodies return. -/
theorem attempts_returns (hbody : ∀ arguments s, (body f arguments s).isSome) :
    ∀ (repeats : Nat) (arguments : Arguments) (s : σ),
      (attempts hooks body f repeats arguments s).isSome := by
  intro repeats
  induction repeats with
  | zero =>
      intro arguments s
      obtain ⟨⟨given, s₁, hnone⟩, -⟩ | ⟨a, s₁, -, -, hstep⟩ :=
        attempts_step hooks body f 0 arguments s
      · exact absurd (hbody given s₁) (by rw [hnone]; exact Bool.false_ne_true)
      · rw [hstep]
        cases (a.verdict f.descriptor).next? <;> rfl
  | succ repeats ih =>
      intro arguments s
      obtain ⟨⟨given, s₁, hnone⟩, -⟩ | ⟨a, s₁, -, -, hstep⟩ :=
        attempts_step hooks body f (repeats + 1) arguments s
      · exact absurd (hbody given s₁) (by rw [hnone]; exact Bool.false_ne_true)
      · rw [hstep]
        cases (a.verdict f.descriptor).next? with
        | none => rfl
        | some next =>
            show (Option.map _ (attempts hooks body f repeats next s₁)).isSome = true
            rw [Option.isSome_map]
            exact ih next s₁

/-- How a row of attempts begins that came to an end: with its last attempt, which asks for no
other unless none is allowed, or with an attempt that the others follow. -/
theorem attempts_cases {repeats : Nat} {arguments : Arguments} {s s' : σ}
    {outcome : Except EngineError Outcome} {events : List Event}
    (h : attempts hooks body f repeats arguments s = some (outcome, s', events)) :
    ∃ (a : Attempt) (s₁ : σ), a.Made hooks body f s s₁ ∧ a.start = arguments ∧
      ((outcome = (a.verdict f.descriptor).outcome ∧ s' = s₁ ∧ events = a.events f.descriptor ∧
          (a.AsksAgain → repeats = 0)) ∨
        ∃ next fewer rest, (a.verdict f.descriptor).next? = some next ∧ repeats = fewer + 1 ∧
          attempts hooks body f fewer next s₁ = some (outcome, s', rest) ∧
          events = a.events f.descriptor ++ rest) := by
  obtain ⟨-, hnone⟩ | ⟨a, s₁, hmade, hstart, hstep⟩ :=
    attempts_step hooks body f repeats arguments s
  · rw [hnone] at h
    contradiction
  · rw [h] at hstep
    refine ⟨a, s₁, hmade, hstart, ?_⟩
    rw [Attempt.asksAgain_iff f.descriptor]
    cases hnext : (a.verdict f.descriptor).next? with
    | none =>
        rw [hnext] at hstep
        obtain ⟨houtcome, hs, hevents⟩ := Exec.end_eq_iff.mp hstep.symm
        exact Or.inl ⟨houtcome, hs, hevents, fun hask => by contradiction⟩
    | some next =>
        cases repeats with
        | zero =>
            rw [hnext] at hstep
            obtain ⟨houtcome, hs, hevents⟩ := Exec.end_eq_iff.mp hstep.symm
            exact Or.inl ⟨houtcome, hs, hevents, fun _ => rfl⟩
        | succ fewer =>
            rw [hnext] at hstep
            obtain ⟨rest, hrest, hevents⟩ := Exec.behind_eq_some_iff.mp hstep.symm
            exact Or.inr ⟨next, fewer, rest, rfl, rfl, hrest, hevents⟩

/-- **All attempts.**  They are a row, no longer than is allowed, and the outcome is that of the
last one; if that one asked for another, none was allowed any more. -/
theorem attempts_run {outcome : Except EngineError Outcome} {s' : σ} (repeats : Nat)
    (arguments : Arguments) (s : σ) (events : List Event)
    (h : attempts hooks body f repeats arguments s = some (outcome, s', events)) :
    ∃ (a : Attempt) (rest : List Attempt), Attempts hooks body f s (a :: rest) s' ∧
      a.start = arguments ∧ rest.length ≤ repeats ∧
      events = (a :: rest).flatMap (·.events f.descriptor) ∧
      ∃ last ∈ (a :: rest).getLast?, outcome = (last.verdict f.descriptor).outcome ∧
        (last.AsksAgain → rest.length = repeats) := by
  obtain ⟨a, s₁, hmade, hstart, ⟨rfl, rfl, rfl, hlast⟩ |
    ⟨next, fewer, more, hnext, rfl, hmore, rfl⟩⟩ := attempts_cases h
  · refine ⟨a, [], .last hmade, hstart, Nat.zero_le _, by simp, a, rfl, rfl, fun hask => ?_⟩
    exact (hlast hask).symm
  · -- The attempt after this one is the first of the row that the rest comes to.
    obtain ⟨b, rest, hrow, hb, hlength, rfl, last, hlast, houtcome, hfull⟩ :=
      attempts_run fewer next s₁ more hmore
    refine ⟨a, b :: rest, .again hmade (by rw [hnext, hb]) hrow, hstart, ?_, rfl, last, ?_,
      houtcome, fun hask => ?_⟩
    · rw [List.length_cons]
      omega
    · rwa [List.getLast?_cons_cons]
    · rw [List.length_cons, hfull hask]
  termination_by repeats

end Engine

namespace Attempts

variable {hooks : List (HookId × Hook σ)} {body : Caller σ FunctionResult} {f : Function σ}
  {s s' : σ} {row : List Attempt}

theorem regular (h : Attempts hooks body f s row s') :
    ∀ a ∈ row, a.Regular (hooks.map Prod.fst) := by
  induction h with
  | last hmade =>
      intro a ha
      rw [List.mem_singleton.mp ha]
      exact hmade.regular
  | again hmade _ _ ih => exact List.forall_mem_cons.mpr ⟨hmade.regular, ih⟩

/-- Every attempt but the last asks for another one. -/
theorem asksAgain (h : Attempts hooks body f s row s') :
    ∀ (k : Nat) (a : Attempt), row[k]? = some a → k + 1 < row.length → a.AsksAgain := by
  induction h with
  | last _ =>
      intro k a _ hk
      rw [List.length_singleton] at hk
      omega
  | @again s s₁ s' a b rest _ hnext _ ih =>
      intro k c hc hk
      cases k with
      | zero =>
          obtain rfl : a = c := by simpa using hc
          rw [Attempt.asksAgain_iff f.descriptor, hnext]
          rfl
      | succ k =>
          refine ih k c (by simpa using hc) ?_
          rw [List.length_cons] at hk
          omega

end Attempts

/-- Bodies are carried out at most once for each attempt. -/
theorem countP_isBody_flatMap (d : Descriptor) (row : List Attempt) :
    (row.flatMap (·.events d)).countP Event.isBody ≤ row.length := by
  induction row with
  | nil => exact Nat.le_refl 0
  | cons a row ih =>
      rw [List.flatMap_cons, List.countP_append, List.length_cons]
      have hfirst := a.countP_isBody_events d
      omega

/-- **The grammar of an invocation.**  If bodies return, an invocation returns.  An invocation that
returns is a row of at least one and at most `maxRepeats + 1` attempts, made by the hooks and the
body one after the other, and its trace is theirs.  Each attempt is regular; an attempt is followed
by another one exactly if its hooks ended with that wish, no error is left, and it is not the last
that is allowed; and the outcome is that of the last attempt.  So the body is carried out at most
`maxRepeats + 1` times. -/
theorem Engine.runFunction_attempts (e : Engine σ) (body : Caller σ FunctionResult)
    (f : Function σ) (arguments : Arguments) (s : σ) :
    ((∀ given s₁, (body f given s₁).isSome) → (e.runFunction body f arguments s).isSome) ∧
    ∀ outcome s' events, e.runFunction body f arguments s = some (outcome, s', events) →
      ∃ row : List Attempt,
        events = [.run f.descriptor arguments (row.flatMap (·.events f.descriptor))] ∧
        Attempts e.hooks body f s row s' ∧
        (∃ first ∈ row.head?, first.start = arguments) ∧
        1 ≤ row.length ∧ row.length ≤ e.config.maxRepeats + 1 ∧
        (∀ a ∈ row, a.Regular (e.hooks.map Prod.fst)) ∧
        (∀ k a, row[k]? = some a →
          (k + 1 < row.length ↔ a.AsksAgain ∧ k + 1 ≤ e.config.maxRepeats)) ∧
        (∃ last ∈ row.getLast?, outcome = (last.verdict f.descriptor).outcome) ∧
        (row.flatMap (·.events f.descriptor)).countP Event.isBody ≤ e.config.maxRepeats + 1 := by
  refine ⟨fun hbody => ?_, fun outcome s' events h => ?_⟩
  · -- Hooks always answer, so only a body can keep an invocation from returning.
    have hreturns : (attempts e.hooks body f e.config.maxRepeats arguments s).isSome :=
      attempts_returns hbody e.config.maxRepeats arguments s
    obtain ⟨⟨outcome, s', events⟩, hrun⟩ := Option.isSome_iff_exists.mp hreturns
    unfold runFunction
    rw [Exec.inside_of_some hrun]
    rfl
  · obtain ⟨inner, hinner, rfl⟩ := Exec.inside_eq_some_iff.mp h
    obtain ⟨a, rest, hrow, hstart, hlength, rfl, last, hlast, houtcome, hfull⟩ :=
      attempts_run e.config.maxRepeats arguments s inner hinner
    have hcount := countP_isBody_flatMap f.descriptor (a :: rest)
    refine ⟨a :: rest, rfl, hrow, ⟨a, rfl, hstart⟩, ?_, ?_, hrow.regular, fun k b hb => ?_,
      ⟨last, hlast, houtcome⟩, ?_⟩
    · rw [List.length_cons]
      omega
    · rw [List.length_cons]
      omega
    · constructor
      · -- What is followed asks for it, and the row is not longer than is allowed.
        intro hk
        refine ⟨hrow.asksAgain k b hb hk, ?_⟩
        rw [List.length_cons] at hk
        omega
      · rintro ⟨hask, hk⟩
        by_contra hend
        have hlt : k < (a :: rest).length := (List.getElem?_eq_some_iff.mp hb).1
        have hkeq : k = (a :: rest).length - 1 := by omega
        -- Attempt `k` is the last one, and it asks for another one only if none is allowed.
        have hsame : last = b := by
          rw [List.getLast?_eq_getElem?, ← hkeq, hb] at hlast
          simpa using hlast.symm
        have hall := hfull (hsame ▸ hask)
        rw [List.length_cons] at hkeq
        omega
    · rw [List.length_cons] at hcount
      omega

/-- A hook that wants every call to be made again. -/
def insatiable : Hook Nat :=
  { after := fun _ found n => ({ PostAnswer.keep found with action := .again none }, n) }

/-- A function that counts its calls. -/
def tally : Function Nat :=
  { descriptor := { name := "tally" }
    body := .native fun _ n => (.ok (.number (.integer n)), n + 1) }

/-- An engine with a hook that does nothing and an insatiable one. -/
def insisting : Engine Nat :=
  { hooks := [(⟨0⟩, {}), (⟨1⟩, insatiable)], config := { maxRepeats := 2 } }

theorem runFunction_attempts_insisting :
    ∃ (outcome : Except EngineError Outcome) (events : List Event) (row : List Attempt),
      insisting.runFunction (insisting.carryOut (insisting.caller 0)) tally {} 0
        = some (outcome, 3, events) ∧
      events = [.run tally.descriptor {} (row.flatMap (·.events tally.descriptor))] ∧
      1 ≤ row.length ∧ row.length ≤ 3 ∧ ∀ a ∈ row, a.Regular [⟨0⟩, ⟨1⟩] := by
  obtain ⟨hreturns, hgrammar⟩ :=
    insisting.runFunction_attempts (insisting.carryOut (insisting.caller 0)) tally {} 0
  obtain ⟨⟨outcome, s', events⟩, hrun⟩ :=
    Option.isSome_iff_exists.mp (hreturns fun _ _ => rfl)
  have hcalls : (insisting.runFunction (insisting.carryOut (insisting.caller 0)) tally {} 0).map
      (·.2.1) = some 3 := by decide +kernel
  obtain rfl : s' = 3 := by simpa [hrun] using hcalls
  obtain ⟨row, hevents, -, -, hone, hthree, hregular, -⟩ := hgrammar outcome 3 events hrun
  exact ⟨outcome, events, row, hrun, hevents, hone, hthree, hregular⟩

end PromptEngine
