/-
  PromptEngine.Proofs.Engine.Handover — what goes from hand to hand in an invocation.

  The arguments of an attempt go from hook to hook, to the body, and with its outcome from hook to
  hook again; if the last of these wants another attempt, they go there.  Each hand is given what
  the one before it left (`Handed` for a round of hooks, `Attempt.HandsOn` for an attempt,
  `Attempts.next_start` from one attempt to the next).  The last attempt decides what the
  invocation comes to (`Attempt.Decides`).  An error can only come from a body, and if no hook takes
  care of it, it is the error of the invocation, whatever the hooks want.

  Main result: `runFunction_handsOn`.
-/
import PromptEngine.Proofs.Engine.Attempts

namespace PromptEngine

variable {σ φ α β : Type}

/-! ## §1. Rounds of hooks. -/

/-- What a hook's answer before a call makes of the call: arguments that it gives take the place of
those that were there, and otherwise nothing changes. -/
structure PreAnswer.MakesOf (answer : PreAnswer) (found left : Pending) : Prop where
  given : ∀ table, answer.arguments = some table → left = { arguments := table, replaced := true }
  kept : answer.arguments = none → left = found

/-- What a hook's answer after a call makes of it: arguments and result are as the hook left them,
and the error is gone if the hook took care of it. -/
structure PostAnswer.MakesOf (answer : PostAnswer) (found left : Finished) : Prop where
  arguments : left.arguments = answer.arguments
  result : left.result = answer.result
  cleared : answer.handled = true → left.error = none
  attached : answer.handled = false → left.error = found.error

/-- Before a call, answers change it in this way. -/
theorem Pending.makesOf_revise (found : Pending) (answer : PreAnswer) :
    answer.MakesOf found (found.revise answer) := by
  obtain ⟨action, arguments⟩ := answer
  cases arguments with
  | none => exact ⟨fun table h => absurd h (Option.some_ne_none table).symm, fun _ => rfl⟩
  | some table => exact ⟨fun table h => by rw [← Option.some.inj h]; rfl, fun h => by contradiction⟩

/-- After a call, answers change it in this way. -/
theorem Finished.makesOf_revise (found : Finished) (answer : PostAnswer) :
    answer.MakesOf found (found.revise answer) := by
  refine ⟨rfl, rfl, fun h => ?_, fun h => ?_⟩
  · exact if_pos h
  · exact if_neg (by rw [h]; exact Bool.false_ne_true)

/-- What goes through a row of questions: the first one is about what was found, each further one
about what the answer before it made of that, and what the last answer made of it is left. -/
def Handed (makes : α → φ → φ → Prop) : φ → List (Asked φ α) → φ → Prop
  | found, [], left => left = found
  | found, q :: asked, left =>
    q.found = found ∧ ∃ next, makes q.answer found next ∧ Handed makes next asked left

/-- What a row of questions ends with: what the last answer wants, or to proceed if there is
none. -/
def wish (action : α → β) (proceed : β) (asked : List (Asked φ α)) : β :=
  asked.getLast?.elim proceed fun q => action q.answer

namespace HookRound

variable {ask : Hook σ → φ → σ → α × σ} {action : α → β} {proceed : β} {revise : φ → α → φ}
  {hooks : List (HookId × Hook σ)} {found : φ} {s s' : σ} {asked : List (Asked φ α)}
  {left : β × φ}

/-- A round hands on what it has found. -/
theorem handed {makes : α → φ → φ → Prop}
    (hmakes : ∀ found answer, makes answer found (revise found answer))
    (h : HookRound ask action proceed revise hooks found s asked left s') :
    Handed makes found asked left.2 := by
  induction h with
  | done => exact rfl
  | next _ _ ih => exact ⟨rfl, _, hmakes _ _, ih⟩
  | stop _ => exact ⟨rfl, _, hmakes _ _, rfl⟩

/-- A round ends as the last hook that was asked wants. -/
theorem wish_eq (h : HookRound ask action proceed revise hooks found s asked left s') :
    left.1 = wish action proceed asked := by
  induction h with
  | done => rfl
  | @next id hook rest found s s' asked left hproceed _ ih =>
      rw [ih]
      cases asked with
      | nil => exact hproceed.symm
      | cons q asked =>
          unfold wish
          rw [List.getLast?_cons_cons]
  | stop _ => rfl

end HookRound

/-! ## §2. Attempts. -/

/-- **What an attempt hands on.**  The first hook is asked about the arguments of the attempt, the
body is given what the hooks before it left, and the hooks after it are asked about these arguments
and what the body came to. -/
structure Attempt.HandsOn (a : Attempt) : Prop where
  before : Handed PreAnswer.MakesOf { arguments := a.start } a.before a.pending
  action : a.action = wish PreAnswer.action .proceed a.before
  /-- The body is given the last arguments that a hook gave, or those of the attempt. -/
  body : ∀ r ∈ a.run, r.arguments = (a.before.filterMap (·.answer.arguments)).getLastD a.start
  after : ∀ r ∈ a.run,
    Handed PostAnswer.MakesOf (.ofOutcome r.arguments r.outcome) r.after r.finished
  wanted : ∀ r ∈ a.run, r.action = wish PostAnswer.action .proceed r.after
  /-- The last hook leaves the arguments of a further attempt. -/
  arguments : ∀ r ∈ a.run,
    r.finished.arguments = (r.after.map (·.answer.arguments)).getLastD r.arguments
  /-- The last hook leaves the result; without hooks it is that of the body. -/
  result : ∀ r ∈ a.run,
    r.finished.result = (r.after.map (·.answer.result)).getLastD r.outcome.toOption

/-- What the last attempt of an invocation decides. -/
structure Attempt.Decides (a : Attempt) (d : Descriptor) (outcome : Except EngineError Outcome) :
    Prop where
  /-- A hook kept the body from being carried out. -/
  stopped : a.run = none →
    (a.action = .cancel ∧ outcome = .ok (.cancelled none)) ∨
      (a.action = .skip ∧ outcome = .ok .skipped)
  /-- The invocation fails exactly with the error that is left, whatever the hooks want. -/
  failed : ∀ error, outcome = .error error ↔
    ∃ r ∈ a.run, ∃ cause, r.finished.error = some cause ∧
      error = .execution d.qualifiedName cause
  /-- Without an error a hook may cancel what was done. -/
  cancelled : ∀ r ∈ a.run, r.finished.error = none → r.action = .cancel →
    outcome = .ok (.cancelled r.finished.result)
  /-- Otherwise the result stands; if there is none, it is the empty result. -/
  completed : ∀ r ∈ a.run, r.finished.error = none → r.action ≠ .cancel →
    outcome = .ok (.completed (r.finished.result.getD (.empty d)))

namespace Handed

/-- The arguments that hooks leave before a call are the last that one of them gave. -/
theorem arguments_eq {found left : Pending} {asked : List (Asked Pending PreAnswer)}
    (h : Handed PreAnswer.MakesOf found asked left) :
    left.arguments = (asked.filterMap (·.answer.arguments)).getLastD found.arguments := by
  induction asked generalizing found with
  | nil =>
      obtain rfl : left = found := h
      rfl
  | cons q asked ih =>
      obtain ⟨-, next, hnext, hrest⟩ := h
      rw [ih hrest]
      cases hgiven : q.answer.arguments with
      | none => simp only [List.filterMap_cons, hgiven, hnext.kept hgiven]
      | some table =>
          simp only [List.filterMap_cons, hgiven, List.getLastD_cons, hnext.given table hgiven]

section After

variable {found left : Finished} {asked : List (Asked Finished PostAnswer)}
  (h : Handed PostAnswer.MakesOf found asked left)

include h

/-- Whatever each hook after a call puts in its place, the last one leaves. -/
theorem eq_getLastD {β : Type} (view : Finished → β) (put : PostAnswer → β)
    (hput : ∀ answer found left, PostAnswer.MakesOf answer found left → view left = put answer) :
    view left = (asked.map fun q => put q.answer).getLastD (view found) := by
  induction asked generalizing found with
  | nil =>
      obtain rfl : left = found := h
      rfl
  | cons q asked ih =>
      obtain ⟨-, next, hnext, hrest⟩ := h
      rw [ih hrest, List.map_cons, List.getLastD_cons, hput _ _ _ hnext]

/-- Hooks leave an error exactly if it was there and none of them took care of it. -/
theorem error_eq_some_iff (error : EngineError) :
    left.error = some error ↔
      found.error = some error ∧ ∀ q ∈ asked, q.answer.handled = false := by
  induction asked generalizing found with
  | nil =>
      obtain rfl : left = found := h
      simp
  | cons q asked ih =>
      obtain ⟨-, next, hnext, hrest⟩ := h
      rw [ih hrest, List.forall_mem_cons, ← and_assoc]
      -- The first answer takes care of the error or leaves it as it was.
      have hfirst : next.error = some error ↔
          found.error = some error ∧ q.answer.handled = false := by
        cases hhandled : q.answer.handled with
        | true => simp [hnext.cleared hhandled]
        | false => simp [hnext.attached hhandled]
      rw [hfirst]

end After

end Handed

namespace Attempt

variable {hooks : List (HookId × Hook σ)} {body : Caller σ FunctionResult} {f : Function σ}
  {s s' : σ} {a : Attempt}

theorem Made.handsOn (h : a.Made hooks body f s s') : a.HandsOn := by
  cases h with
  | stopped hbefore _ =>
      have hnone : ∀ {P : BodyRun → Prop}, ∀ r ∈ (none : Option BodyRun), P r := by
        rintro P r ⟨⟩
      exact ⟨hbefore.handed Pending.makesOf_revise, hbefore.wish_eq, hnone, hnone, hnone, hnone,
        hnone⟩
  | @called _ _ _ _ _ _ outcome _ _ _ _ hbefore _ hafter =>
      have hasked := hbefore.handed Pending.makesOf_revise
      have hgiven := hafter.handed Finished.makesOf_revise
      refine ⟨hasked, hbefore.wish_eq, ?_, ?_, ?_, ?_, ?_⟩
      · rintro r ⟨⟩
        exact hasked.arguments_eq
      · rintro r ⟨⟩
        exact hgiven
      · rintro r ⟨⟩
        exact hafter.wish_eq
      · rintro r ⟨⟩
        rw [hgiven.eq_getLastD Finished.arguments _ fun _ _ _ h => h.arguments]
        cases outcome <;> rfl
      · rintro r ⟨⟩
        rw [hgiven.eq_getLastD Finished.result _ fun _ _ _ h => h.result]
        cases outcome <;> rfl

/-- **Errors come from bodies.**  An error is left after an attempt exactly if it is that of the
body and no hook took care of it. -/
theorem HandsOn.error_eq_some_iff (h : a.HandsOn) {r : BodyRun} (hr : r ∈ a.run)
    (error : EngineError) :
    r.finished.error = some error ↔
      r.outcome = .error error ∧ ∀ q ∈ r.after, q.answer.handled = false := by
  have hfound : (Finished.ofOutcome r.arguments r.outcome).error = some error ↔
      r.outcome = .error error := by
    cases r.outcome <;> simp [Finished.ofOutcome]
  rw [(h.after r hr).error_eq_some_iff, hfound]

/-- The attempt that is wanted begins with the arguments that a hook gave, or with those that the
hooks left. -/
theorem next?_eq_some_iff (d : Descriptor) (next : Arguments) :
    (a.verdict d).next? = some next ↔
      ∃ r ∈ a.run, ∃ replacement, r.action = .again replacement ∧ r.finished.error = none ∧
        next = replacement.getD r.finished.arguments := by
  obtain ⟨start, before, action, pending, run⟩ := a
  cases run with
  | none => cases action <;> simp [verdict, Engine.Verdict.next?]
  | some r =>
      obtain ⟨arguments, outcome, inner, after, action, ⟨left, result, error⟩⟩ := r
      cases error with
      | some error => simp [verdict, Engine.judge, Engine.Verdict.next?]
      | none => cases action <;> simp [verdict, Engine.judge, Engine.Verdict.next?, eq_comm]

/-- The outcome of an attempt that is not followed by another one. -/
theorem Made.decides (h : a.Made hooks body f s s') :
    a.Decides f.descriptor (a.verdict f.descriptor).outcome := by
  cases h with
  | @stopped _ start before action pending hbefore hstop =>
      refine ⟨fun _ => ?_, fun error => ?_, by rintro r ⟨⟩, by rintro r ⟨⟩⟩
      · cases action with
        | proceed => exact absurd rfl hstop
        | cancel => exact Or.inl ⟨rfl, rfl⟩
        | skip => exact Or.inr ⟨rfl, rfl⟩
      · cases action <;> simp [verdict, Engine.Verdict.outcome]
  | @called s₁ s₂ _ start before pending outcome inner after action finished hbefore hbody hafter =>
      obtain ⟨left, result, error⟩ := finished
      cases error with
      | some cause =>
          -- With an error left, no action matters.
          refine ⟨fun hnone => absurd hnone (Option.some_ne_none _), fun error => ?_, ?_, ?_⟩
          · simp [verdict, Engine.judge, Engine.Verdict.outcome, eq_comm]
          · rintro r ⟨⟩ hnone
            contradiction
          · rintro r ⟨⟩ hnone
            contradiction
      | none =>
          refine ⟨fun hnone => absurd hnone (Option.some_ne_none _), fun error => ?_, ?_, ?_⟩
          · cases action <;> simp [verdict, Engine.judge, Engine.Verdict.outcome]
          · rintro r ⟨⟩ - haction
            obtain rfl : action = .cancel := haction
            rfl
          · rintro r ⟨⟩ - haction
            cases action with
            | proceed => rfl
            | cancel => exact absurd rfl haction
            | again replacement => rfl

end Attempt

/-! ## §3. Rows of attempts. -/

namespace Attempts

variable {hooks : List (HookId × Hook σ)} {body : Caller σ FunctionResult} {f : Function σ}
  {s s' : σ} {row : List Attempt}

/-- Each attempt of a row was made. -/
theorem made (h : Attempts hooks body f s row s') :
    ∀ a ∈ row, ∃ s₁ s₂, a.Made hooks body f s₁ s₂ := by
  induction h with
  | last hmade => exact List.forall_mem_singleton.mpr ⟨_, _, hmade⟩
  | again hmade _ _ ih => exact List.forall_mem_cons.mpr ⟨⟨_, _, hmade⟩, ih⟩

/-- **From one attempt to the next** go the arguments that a hook gave, or those that the hooks
left. -/
theorem next_start (h : Attempts hooks body f s row s') :
    ∀ (k : Nat) (a b : Attempt), row[k]? = some a → row[k + 1]? = some b →
      ∃ r ∈ a.run, ∃ replacement, r.action = .again replacement ∧ r.finished.error = none ∧
        b.start = replacement.getD r.finished.arguments := by
  induction h with
  | last _ =>
      intro k a b _ hb
      simp at hb
  | @again s s₁ s' a b rest _ hnext _ ih =>
      intro k c d hc hd
      cases k with
      | zero =>
          obtain rfl : a = c := by simpa using hc
          obtain rfl : b = d := by simpa using hd
          exact (Attempt.next?_eq_some_iff f.descriptor _).mp hnext
      | succ k => exact ih k c d (by simpa using hc) (by simpa using hd)

/-- An attempt that leaves an error is the last one. -/
theorem last_of_error (h : Attempts hooks body f s row s') {k : Nat} {a : Attempt}
    (ha : row[k]? = some a) {r : BodyRun} (hr : r ∈ a.run) {error : EngineError}
    (herror : r.finished.error = some error) : k + 1 = row.length ∧ row.getLast? = some a := by
  have hlt := (List.getElem?_eq_some_iff.mp ha).1
  have hk : k + 1 = row.length := by
    by_contra hne
    obtain ⟨b, hb⟩ : ∃ b, row[k + 1]? = some b := ⟨_, List.getElem?_eq_getElem (by omega)⟩
    obtain ⟨r', hr', replacement, -, hnone, -⟩ := h.next_start k a b ha hb
    obtain rfl : r = r' := Option.mem_unique hr hr'
    rw [herror] at hnone
    contradiction
  refine ⟨hk, ?_⟩
  rw [List.getLast?_eq_getElem?, ← hk, Nat.add_sub_cancel]
  exact ha

end Attempts

/-- **What an invocation hands on and what it comes to.**  If bodies return, an invocation returns.
An invocation that returns is a row of attempts, and its trace is theirs.  The first attempt begins
with the arguments of the invocation; each attempt hands on what it begins with, to the hooks, the
body and the hooks again; each further attempt begins with what the hooks of the one before gave or
left.  The last attempt decides: it was stopped, or an error is left, or a hook cancelled, or the
result stands, also if a hook wanted another attempt and none was allowed any more.  If a body
fails and no hook takes care of it, the attempt is the last one and the invocation fails with that
error; no other error is ever left. -/
theorem Engine.runFunction_handsOn (e : Engine σ) (body : Caller σ FunctionResult)
    (f : Function σ) (arguments : Arguments) (s : σ) :
    ((∀ given s₁, (body f given s₁).isSome) → (e.runFunction body f arguments s).isSome) ∧
    ∀ outcome s' events, e.runFunction body f arguments s = some (outcome, s', events) →
      ∃ (row : List Attempt) (last : Attempt),
        events = [.run f.descriptor arguments (row.flatMap (·.events f.descriptor))] ∧
        Attempts e.hooks body f s row s' ∧
        (∃ first ∈ row.head?, first.start = arguments) ∧
        (∀ a ∈ row, a.HandsOn) ∧
        (∀ k a b, row[k]? = some a → row[k + 1]? = some b →
          ∃ r ∈ a.run, ∃ replacement, r.action = .again replacement ∧ r.finished.error = none ∧
            b.start = replacement.getD r.finished.arguments) ∧
        row.getLast? = some last ∧ last.Decides f.descriptor outcome ∧
        (∀ r ∈ last.run, ∀ replacement, r.action = .again replacement →
          r.finished.error = none → row.length = e.config.maxRepeats + 1) ∧
        (∀ a ∈ row, ∀ r ∈ a.run, ∀ error, r.finished.error = some error ↔
          r.outcome = .error error ∧ ∀ q ∈ r.after, q.answer.handled = false) ∧
        (∀ k a, row[k]? = some a → ∀ r ∈ a.run, ∀ error, r.outcome = .error error →
          (∀ q ∈ r.after, q.answer.handled = false) →
          k + 1 = row.length ∧
            outcome = .error (.execution f.descriptor.qualifiedName error)) := by
  refine ⟨fun hbody => ?_, fun outcome s' events h => ?_⟩
  · have hreturns : (attempts e.hooks body f e.config.maxRepeats arguments s).isSome :=
      attempts_returns hbody e.config.maxRepeats arguments s
    obtain ⟨⟨outcome, s', events⟩, hrun⟩ := Option.isSome_iff_exists.mp hreturns
    exact Option.isSome_iff_exists.mpr ⟨_, Exec.inside_of_some hrun⟩
  · obtain ⟨inner, hinner, rfl⟩ := Exec.inside_eq_some_iff.mp h
    obtain ⟨first, rest, hrow, hstart, hlength, rfl, last, hlast, rfl, hfull⟩ :=
      attempts_run e.config.maxRepeats arguments s inner hinner
    have hhands : ∀ a ∈ first :: rest, a.HandsOn := fun a ha => by
      obtain ⟨s₁, s₂, hmade⟩ := hrow.made a ha
      exact hmade.handsOn
    obtain ⟨s₁, s₂, hmade⟩ := hrow.made last (List.mem_of_getLast? hlast)
    have hdecides := hmade.decides
    refine ⟨first :: rest, last, rfl, hrow, ⟨first, rfl, hstart⟩, hhands, hrow.next_start, hlast,
      hdecides, fun r hr replacement haction hnone => ?_,
      fun a ha r hr => (hhands a ha).error_eq_some_iff hr, fun k a ha r hr error hfails hleft => ?_⟩
    · have hasks : last.AsksAgain := ⟨r, hr, ⟨replacement, haction⟩, hnone⟩
      rw [List.length_cons, hfull hasks]
    · -- Nobody took care of the error, so it is left, and the attempt decides.
      have herror : r.finished.error = some error :=
        ((hhands a (List.mem_of_getElem? ha)).error_eq_some_iff hr error).mpr ⟨hfails, hleft⟩
      obtain ⟨hk, hend⟩ := hrow.last_of_error ha hr herror
      obtain rfl : last = a := Option.some.inj (hlast.symm.trans hend)
      exact ⟨hk, (hdecides.failed _).mpr ⟨r, hr, error, herror, rfl⟩⟩

/-- A hook that adds the bags of the passenger to the arguments. -/
def porter : Hook Nat :=
  { before := fun _ found n =>
      ({ arguments := some (found.arguments.insert "bags" (.number (.integer 2))) }, n) }

/-- A hook that takes care of a failure and wants the call to be made again in another way. -/
def attendant : Hook Nat :=
  { after := fun _ found n =>
      match found.error with
      | some _ =>
        ({ action := .again (some (.ofList [("by", .string "stairs")]))
           arguments := found.arguments
           result := none
           handled := true }, n)
      | none => (.keep found, n) }

/-- A function that fails once and then says how it was called. -/
def ride : Function Nat :=
  { descriptor := { name := "ride" }
    body := .native fun arguments n =>
      match n with
      | 0 => (.error (.failed "out of order"), 1)
      | n + 1 =>
        let text name := (arguments.getText? name).getD "?"
        (.ok (.string (text "by" ++ ", bags: " ++ text "bags")), n + 2) }

/-- An engine with both hooks. -/
def elevator : Engine Nat :=
  { hooks := [(⟨0⟩, porter), (⟨1⟩, attendant)] }

/-- The body is called with the table that the porter has put in the place of the one it found. -/
theorem Attempt.Made.bags {body : Caller Nat FunctionResult} {f : Function Nat} {s s' : Nat}
    {a : Attempt} (h : a.Made elevator.hooks body f s s') :
    ∀ r ∈ a.run, r.arguments = a.start.insert "bags" (.number (.integer 2)) := by
  cases h with
  | stopped _ _ => exact fun r hr => absurd hr (Option.not_mem_none r)
  | called hbefore _ _ =>
      rintro r ⟨⟩
      -- Neither the porter nor the attendant keeps the body from being carried out.
      cases hbefore with
      | stop hstop => exact absurd rfl hstop
      | next _ hrest =>
          cases hrest with
          | stop hstop => exact absurd rfl hstop
          | next _ hnone =>
              cases hnone
              rfl

theorem Engine.runFunction_handsOn_elevator :
    ∃ (outcome : Except EngineError Outcome) (events : List Event) (row : List Attempt)
        (last : Attempt),
      elevator.runFunction (elevator.carryOut (elevator.caller 0)) ride
        (.ofList [("by", .string "lift")]) 0 = some (outcome, 2, events) ∧
      outcome.toOption.map (·.text) = some "stairs, bags: 2" ∧
      events = [.run ride.descriptor (.ofList [("by", .string "lift")])
        (row.flatMap (·.events ride.descriptor))] ∧
      (∀ a ∈ row, a.HandsOn) ∧
      (∀ a ∈ row, ∀ r ∈ a.run, r.arguments = a.start.insert "bags" (.number (.integer 2))) ∧
      row.getLast? = some last ∧ last.Decides ride.descriptor outcome := by
  obtain ⟨hreturns, hrow⟩ :=
    elevator.runFunction_handsOn (elevator.carryOut (elevator.caller 0)) ride
      (.ofList [("by", .string "lift")]) 0
  obtain ⟨⟨outcome, s', events⟩, hrun⟩ := Option.isSome_iff_exists.mp (hreturns fun given n => by
    cases n <;> rfl)
  have hends : (elevator.runFunction (elevator.carryOut (elevator.caller 0)) ride
      (.ofList [("by", .string "lift")]) 0).map
        (fun run => (run.1.toOption.map (·.text), run.2.1)) = some (some "stairs, bags: 2", 2) := by
    decide +kernel
  rw [hrun] at hends
  obtain ⟨htext, rfl⟩ := Prod.mk.inj (Option.some.inj hends)
  obtain ⟨row, last, hevents, hattempts, -, hhands, -, hlast, hdecides, -⟩ :=
    hrow outcome 2 events hrun
  have hbags : ∀ a ∈ row, ∀ r ∈ a.run,
      r.arguments = a.start.insert "bags" (.number (.integer 2)) := fun a ha => by
    obtain ⟨s₁, s₂, hmade⟩ := hattempts.made a ha
    exact hmade.bags
  exact ⟨outcome, events, row, last, hrun, htext, hevents, hhands, hbags, hlast, hdecides⟩

end PromptEngine
