/-
  PromptEngine.Proofs.Engine.Round — what is known of jobs that are carried out at the same time.

  Whatever the schedule, jobs are begun in their order and each once, no job acts before it was
  begun, the acts of a job are a run of this job and of nothing else, and each act finds the state
  that the one before it left, whosever that was (`Round.Orderly`).  A turn keeps this, so every
  round has it (`Round.orderly_run`), and a round that is over has carried out all its jobs
  (`Round.CarriedOut`).  If acts come to an end in every state and every job has its turn again and
  again, the round is over some time.

  Jobs that are done in a single act do not wait for others.  They are carried out in turn, under
  any schedule, if they can be.

  Main results:
    * `Round.carriedOut_of_ofJobs` — what a round that is over has done,
    * `Round.ofJobs_fair` — under a fair schedule it is over some time,
    * `Round.ofJobs_range`, `Round.ofJobs_atOnce` — jobs that do not wait are carried out in turn.
-/
import Mathlib.Data.Nat.Find
import Mathlib.Data.Set.List
import PromptEngine.Engine.Round
import PromptEngine.Proofs.Engine.Exec

namespace PromptEngine

variable {σ α β : Type}

/-! ## §1. How a job goes on. -/

namespace Job

/-- A job goes on by acts, and something is left of it. -/
inductive Goes : Job σ α → List (Act σ) → Job σ α → Prop where
  | stay (job : Job σ α) : Goes job [] job
  | act {β : Type} {act : Exec σ β} {next : β → Job σ α} {own : Act σ} {b : β}
      {rest : List (Act σ)} {left : Job σ α} :
      act own.found = some (b, own.left, own.events) → Goes (next b) rest left →
      Goes (.wait act next) (own :: rest) left

/-- One more act. -/
theorem Goes.snoc {job left : Job σ α} {acts : List (Act σ)} (h : job.Goes acts left) {β : Type}
    {act : Exec σ β} {next : β → Job σ α} (hleft : left = .wait act next) {own : Act σ} {b : β}
    (hact : act own.found = some (b, own.left, own.events)) :
    job.Goes (acts ++ [own]) (next b) := by
  induction h with
  | stay job =>
      subst hleft
      exact .act hact (.stay _)
  | act hfirst _ ih => exact .act hfirst (ih hleft)

theorem goes_done_iff {value : α} {acts : List (Act σ)} {left : Job σ α} :
    (Job.done value).Goes acts left ↔ acts = [] ∧ left = .done value := by
  constructor
  · intro h
    cases h
    exact ⟨rfl, rfl⟩
  · rintro ⟨rfl, rfl⟩
    exact .stay _

/-- A job with its value changed carries out the same acts. -/
theorem Goes.of_map {f : α → β} {job : Job σ α} {acts : List (Act σ)} {value : β}
    (h : (job.map f).Goes acts (.done value)) :
    ∃ own, job.Goes acts (.done own) ∧ value = f own := by
  induction job generalizing acts with
  | done own =>
      obtain ⟨rfl, hvalue⟩ := goes_done_iff.mp h
      exact ⟨own, .stay _, Job.done.inj hvalue⟩
  | wait act next ih =>
      unfold map at h
      cases h with
      | act hact hrest =>
          obtain ⟨own, hown, hvalue⟩ := ih _ hrest
          exact ⟨own, .act hact hown, hvalue⟩

/-- Every act of a job comes to an end, in whatever state. -/
inductive Ends : Job σ α → Prop where
  | done (value : α) : Ends (.done value)
  | wait {β : Type} {act : Exec σ β} {next : β → Job σ α} :
      (∀ s, (act s).isSome) → (∀ b, Ends (next b)) → Ends (.wait act next)

/-- What is left of a job whose acts come to an end is such a job. -/
theorem Goes.ends {job left : Job σ α} {acts : List (Act σ)} (h : job.Goes acts left)
    (hjob : job.Ends) : left.Ends := by
  induction h with
  | stay job => exact hjob
  | act _ _ ih =>
      cases hjob with
      | wait _ hnext => exact ih (hnext _)

theorem Ends.map {job : Job σ α} (h : job.Ends) (f : α → β) : (job.map f).Ends := by
  induction h with
  | done value => exact .done _
  | wait hact _ ih => exact .wait hact ih

/-- A job that is done in a single act, or without any. -/
inductive AtOnce : Job σ α → Prop where
  | done (value : α) : AtOnce (.done value)
  | wait {β : Type} (act : Exec σ β) (f : β → α) : AtOnce (.wait act fun b => .done (f b))

/-- Jobs one after the other. -/
def inTurn : List (Job σ α) → Exec σ (List α)
  | [] => pure []
  | job :: rest => do
    let value ← job.alone
    let more ← inTurn rest
    return value :: more

theorem inTurn_cons_of_some {job : Job σ α} (rest : List (Job σ α)) {s left : σ} {value : α}
    {own : List Event} (h : job.alone s = some (value, left, own)) :
    inTurn (job :: rest) s
      = (inTurn rest left).map fun ending =>
          (value :: ending.1, ending.2.1, own ++ ending.2.2) := by
  refine (Exec.bind_of_some h).trans ?_
  cases hmore : inTurn rest left with
  | none =>
      rw [Exec.bind_of_none hmore]
      rfl
  | some ending =>
      rw [Exec.bind_of_some hmore, Exec.pure_apply]
      simp [Exec.behind]

theorem inTurn_cons_of_none {job : Job σ α} (rest : List (Job σ α)) {s : σ}
    (h : job.alone s = none) : inTurn (job :: rest) s = none :=
  Exec.bind_of_none h

end Job

namespace Move

/-- The job that a move begins. -/
def start? : Move σ → Option Nat
  | .start job => some job
  | .act _ _ => none

/-- The act that a move is, whosever it is. -/
def act? : Move σ → Option (Act σ)
  | .start _ => none
  | .act _ own => some own

/-- The act of a job that a move is. -/
def actOf? (job : Nat) : Move σ → Option (Act σ)
  | .start _ => none
  | .act k own => if k = job then some own else none

end Move

/-- The jobs that were begun, in their order. -/
def startsOf (moves : List (Move σ)) : List Nat :=
  moves.filterMap Move.start?

/-- All acts, in their order. -/
def allActs (moves : List (Move σ)) : List (Act σ) :=
  moves.filterMap Move.act?

/-- The acts of a job, in their order. -/
def actsOf (job : Nat) (moves : List (Move σ)) : List (Act σ) :=
  moves.filterMap (Move.actOf? job)

section Moves

variable (moves : List (Move σ)) (job k : Nat) (own : Act σ)

@[simp]
theorem startsOf_start : startsOf (moves ++ [.start k]) = startsOf moves ++ [k] :=
  List.filterMap_append

@[simp]
theorem startsOf_act : startsOf (moves ++ [.act k own]) = startsOf moves := by
  unfold startsOf
  rw [List.filterMap_append]
  exact List.append_nil _

@[simp]
theorem allActs_start : allActs (moves ++ [.start k]) = allActs moves := by
  unfold allActs
  rw [List.filterMap_append]
  exact List.append_nil _

@[simp]
theorem allActs_act : allActs (moves ++ [.act k own]) = allActs moves ++ [own] :=
  List.filterMap_append

@[simp]
theorem actsOf_start : actsOf job (moves ++ [.start k]) = actsOf job moves := by
  unfold actsOf
  rw [List.filterMap_append]
  exact List.append_nil _

theorem actsOf_act :
    actsOf job (moves ++ [.act k own]) = actsOf job moves ++ if k = job then [own] else [] := by
  unfold actsOf
  rw [List.filterMap_append]
  by_cases h : k = job <;> simp [Move.actOf?, h]

end Moves

/-- What stands in a row that is longer by one. -/
theorem getElem?_concat_eq_some_iff {γ : Type*} {row : List γ} {x y : γ} {n : Nat} :
    (row ++ [x])[n]? = some y ↔ row[n]? = some y ∨ (n = row.length ∧ x = y) := by
  rw [List.getElem?_append]
  split
  · constructor
    · exact Or.inl
    · rintro (h | ⟨rfl, -⟩)
      · exact h
      · omega
  · rename_i hn
    rw [List.getElem?_eq_none (Nat.le_of_not_lt hn), List.getElem?_singleton]
    constructor
    · intro h
      split at h
      · exact Or.inr ⟨by omega, Option.some.inj h⟩
      · contradiction
    · rintro (h | ⟨rfl, rfl⟩)
      · contradiction
      · rw [Nat.sub_self, if_pos rfl]

/-- Each act finds the state that the one before it left. -/
def Unbroken : σ → List (Act σ) → σ → Prop
  | s, [], s' => s' = s
  | s, own :: rest, s' => own.found = s ∧ Unbroken own.left rest s'

theorem Unbroken.snoc {s s' : σ} {acts : List (Act σ)} (h : Unbroken s acts s') {own : Act σ}
    (hfound : own.found = s') : Unbroken s (acts ++ [own]) own.left := by
  induction acts generalizing s with
  | nil =>
      obtain rfl : s' = s := h
      exact ⟨hfound, rfl⟩
  | cons first rest ih => exact ⟨h.1, ih h.2⟩

/-! ## §2. Turns. -/

namespace Round

variable {r : Round σ α} {jobs : List (Job σ α)} {s s' : σ}

/-- What holds of a round of jobs that began in a state, as far as it has come. -/
structure Orderly (jobs : List (Job σ α)) (s : σ) (r : Round σ α) : Prop where
  toCome : jobs.length = r.begun.length + r.toCome.length ∧ r.toCome = jobs.drop r.begun.length
  /-- Jobs are begun in their order, each once. -/
  starts : startsOf r.moves = List.range r.begun.length
  /-- A job acts only after it was begun. -/
  startsFirst : ∀ (k n : Nat) (own : Act σ), r.moves[n]? = some (.act k own) →
    ∃ m < n, r.moves[m]? = some (.start k)
  /-- The acts of a job have brought it where it is. -/
  goes : ∀ (k : Nat) (left : Job σ α), r.begun[k]? = some left →
    ∃ job, jobs[k]? = some job ∧ job.Goes (actsOf k r.moves) left
  unbroken : Unbroken s (allActs r.moves) r.state

/-- A job was begun exactly if there is a move that began it. -/
theorem Orderly.begun_iff (h : Orderly jobs s r) {k : Nat} :
    k < r.begun.length ↔ ∃ m : Nat, r.moves[m]? = some (.start k) := by
  rw [← List.mem_range, ← h.starts]
  unfold startsOf
  rw [List.mem_filterMap]
  constructor
  · rintro ⟨move, hmove, hk⟩
    cases move with
    | start job =>
        obtain rfl : job = k := Option.some.inj hk
        exact List.getElem?_of_mem hmove
    | act job own => contradiction
  · rintro ⟨m, hm⟩
    exact ⟨_, List.mem_of_getElem? hm, rfl⟩

/-- A job that was not begun has not acted. -/
theorem Orderly.actsOf_eq_nil (h : Orderly jobs s r) {k : Nat} (hk : r.begun.length ≤ k) :
    actsOf k r.moves = [] := by
  refine List.filterMap_eq_nil_iff.mpr fun move hmove => ?_
  cases move with
  | start job => rfl
  | act job own =>
      refine if_neg fun hjob => ?_
      obtain ⟨n, hn⟩ := List.getElem?_of_mem hmove
      obtain ⟨m, -, hm⟩ := h.startsFirst job n own hn
      have hbegun : job < r.begun.length := h.begun_iff.mpr ⟨m, hm⟩
      omega

/-- What one turn does to a job that can go on. -/
theorem goOn_of_some {k : Nat} {β : Type} {act : Exec σ β} {next : β → Job σ α}
    (hk : r.begun[k]? = some (.wait act next)) {b : β} {left : σ} {events : List Event}
    (hact : act r.state = some (b, left, events)) :
    r.goOn k =
      { r with
        begun := r.begun.set k (next b)
        state := left
        moves := r.moves ++ [.act k { found := r.state, left, events }] } := by
  unfold goOn
  rw [hk]
  dsimp only
  rw [hact]

theorem goOn_of_none {k : Nat} {β : Type} {act : Exec σ β} {next : β → Job σ α}
    (hk : r.begun[k]? = some (.wait act next)) (hact : act r.state = none) : r.goOn k = r := by
  unfold goOn
  rw [hk]
  dsimp only
  rw [hact]

theorem goOn_of_done {k : Nat} {value : α} (hk : r.begun[k]? = some (.done value)) :
    r.goOn k = r := by
  unfold goOn
  rw [hk]

/-- A job that is done, or waits, stays as it is. -/
theorem goOn_cases (r : Round σ α) (k : Nat) :
    r.goOn k = r ∨ ∃ (β : Type) (act : Exec σ β) (next : β → Job σ α) (b : β) (left : σ)
      (events : List Event), r.begun[k]? = some (.wait act next) ∧
        act r.state = some (b, left, events) := by
  unfold goOn
  split
  · rename_i β act next hk
    split
    · rename_i b left events hact
      exact Or.inr ⟨β, act, next, b, left, events, hk, hact⟩
    · exact Or.inl rfl
  · exact Or.inl rfl

/-- **Going on keeps a round orderly.** -/
theorem Orderly.goOn (h : Orderly jobs s r) (k : Nat) : Orderly jobs s (r.goOn k) := by
  obtain hstays | ⟨β, act, next, b, left, events, hk, hact⟩ := goOn_cases r k
  · rw [hstays]
    exact h
  · have hlength : k < r.begun.length := (List.getElem?_eq_some_iff.mp hk).1
    rw [goOn_of_some hk hact]
    refine ⟨?_, ?_, ?_, ?_, ?_⟩
    · simpa using h.toCome
    · simpa using h.starts
    · intro j n own hn
      obtain hn | ⟨rfl, hmove⟩ := getElem?_concat_eq_some_iff.mp hn
      · obtain ⟨m, hm, hstart⟩ := h.startsFirst j n own hn
        exact ⟨m, hm, getElem?_concat_eq_some_iff.mpr (Or.inl hstart)⟩
      · -- The new act is one of a job that was begun.
        obtain ⟨rfl, -⟩ := Move.act.inj hmove
        obtain ⟨m, hm⟩ := h.begun_iff.mp hlength
        exact ⟨m, (List.getElem?_eq_some_iff.mp hm).1,
          getElem?_concat_eq_some_iff.mpr (Or.inl hm)⟩
    · intro j now hnow
      dsimp only
      rw [actsOf_act]
      by_cases hj : k = j
      · subst hj
        obtain ⟨job, hjob, hgoes⟩ := h.goes k _ hk
        rw [List.getElem?_set_self hlength] at hnow
        obtain rfl := Option.some.inj hnow
        rw [if_pos rfl]
        exact ⟨job, hjob, hgoes.snoc rfl hact⟩
      · rw [List.getElem?_set_ne hj] at hnow
        rw [if_neg hj, List.append_nil]
        exact h.goes j now hnow
    · dsimp only
      rw [allActs_act]
      exact h.unbroken.snoc rfl

/-- The round in which the next job has just been begun. -/
def begin (r : Round σ α) (job : Job σ α) (rest : List (Job σ α)) : Round σ α :=
  { r with
    begun := r.begun ++ [job]
    toCome := rest
    moves := r.moves ++ [.start r.begun.length] }

theorem begin_length (r : Round σ α) (job : Job σ α) (rest : List (Job σ α)) :
    (r.begin job rest).begun.length = r.begun.length + 1 :=
  List.length_append

theorem start_nil (h : r.toCome = []) : r.start = r := by
  unfold start
  rw [h]

theorem start_cons {job : Job σ α} {rest : List (Job σ α)} (h : r.toCome = job :: rest) :
    r.start = (r.begin job rest).goOn r.begun.length := by
  unfold start
  rw [h]
  rfl

theorem Orderly.begin (h : Orderly jobs s r) {job : Job σ α} {rest : List (Job σ α)}
    (hcome : r.toCome = job :: rest) : Orderly jobs s (r.begin job rest) := by
  obtain ⟨hlength, hdrop⟩ := h.toCome
  rw [hcome] at hlength hdrop
  have hlt : r.begun.length < jobs.length := by rw [hlength, List.length_cons]; omega
  rw [List.drop_eq_getElem_cons hlt] at hdrop
  obtain ⟨hjob, hrest⟩ := List.cons.inj hdrop
  refine ⟨⟨?_, ?_⟩, ?_, ?_, ?_, ?_⟩
  · simp only [Round.begin, List.length_append, List.length_cons, List.length_nil] at hlength ⊢
    omega
  · simpa [Round.begin] using hrest
  · simp [Round.begin, h.starts, List.range_succ]
  · intro k n own hn
    obtain hn | ⟨-, hmove⟩ := getElem?_concat_eq_some_iff.mp hn
    · obtain ⟨m, hm, hstart⟩ := h.startsFirst k n own hn
      exact ⟨m, hm, getElem?_concat_eq_some_iff.mpr (Or.inl hstart)⟩
    · contradiction
  · intro k now hnow
    have hacts : actsOf k (r.begin job rest).moves = actsOf k r.moves := actsOf_start _ _ _
    rw [hacts]
    obtain hnow | ⟨rfl, rfl⟩ := getElem?_concat_eq_some_iff.mp hnow
    · exact h.goes k now hnow
    · -- The new job has not acted yet.
      refine ⟨job, by rw [List.getElem?_eq_getElem hlt, hjob], ?_⟩
      rw [h.actsOf_eq_nil (Nat.le_refl _)]
      exact .stay job
  · simpa [Round.begin] using h.unbroken

/-- A job that was begun goes on when it is its turn. -/
theorem turn_of_lt {k : Nat} (hk : k < r.begun.length) : r.turn k = r.goOn k :=
  if_pos hk

/-- The next job is begun when it is its turn. -/
theorem turn_of_eq {k : Nat} (hk : k = r.begun.length) : r.turn k = r.start := by
  unfold Round.turn
  rw [if_neg (Nat.not_lt_of_le hk.ge), if_pos hk]

/-- A job has no turn before those in front of it were begun. -/
theorem turn_of_gt {k : Nat} (hk : r.begun.length < k) : r.turn k = r := by
  unfold Round.turn
  rw [if_neg (Nat.not_lt_of_gt hk), if_neg hk.ne']

/-- **A turn keeps a round orderly**, whosever it is. -/
theorem Orderly.turn (h : Orderly jobs s r) (k : Nat) : Orderly jobs s (r.turn k) := by
  unfold Round.turn
  split
  · exact h.goOn k
  · split
    · cases hcome : r.toCome with
      | nil =>
          rw [start_nil hcome]
          exact h
      | cons job rest =>
          rw [start_cons hcome]
          exact (h.begin hcome).goOn _
    · exact h

/-- **Every round is orderly**, whatever the schedule. -/
theorem Orderly.run (h : Orderly jobs s r) (schedule : List Nat) :
    Orderly jobs s (r.run schedule) := by
  induction schedule generalizing r with
  | nil => exact h
  | cons k rest ih => exact ih (h.turn k)

theorem orderly_init (jobs : List (Job σ α)) (s : σ) :
    Orderly jobs s ({ toCome := jobs, state := s } : Round σ α) where
  toCome := ⟨(Nat.zero_add _).symm, rfl⟩
  starts := rfl
  startsFirst _ _ _ h := by simp at h
  goes _ _ h := by simp at h
  unbroken := rfl

/-! ## §3. Rounds that are over. -/

theorem mapM_value?_eq_some_iff {begun : List (Job σ α)} {values : List α} :
    begun.mapM Job.value? = some values ↔ begun = values.map .done := by
  induction begun generalizing values with
  | nil => cases values <;> simp
  | cons job rest ih =>
      rw [List.mapM_cons]
      cases job with
      | wait act next => cases values <;> simp [Job.value?]
      | done value =>
          rw [Option.bind_eq_bind, Option.bind_eq_some_iff]
          constructor
          · rintro ⟨_, ⟨⟩, hrest⟩
            obtain ⟨more, hmore, hvalues⟩ := Option.bind_eq_some_iff.mp hrest
            rw [← Option.some.inj hvalues, ih.mp hmore, List.map_cons]
          · intro hvalues
            cases values with
            | nil => contradiction
            | cons first more =>
                obtain ⟨hfirst, hrest⟩ := List.cons.inj hvalues
                rw [Job.done.inj hfirst]
                exact ⟨first, rfl, Option.bind_eq_some_iff.mpr ⟨more, ih.mpr hrest, rfl⟩⟩

/-- A round has its values exactly if all its jobs were begun and are done. -/
theorem values?_eq_some_iff {values : List α} :
    r.values? = some values ↔ r.toCome = [] ∧ r.begun = values.map .done := by
  unfold values?
  cases r.toCome with
  | nil => simp [mapM_value?_eq_some_iff]
  | cons job rest => simp

/-- **What a round that is over has done.**  Every job was begun once, in the order of the jobs, and
has acted until it had its value, and not before it was begun. -/
structure CarriedOut (jobs : List (Job σ α)) (s : σ) (values : List α) (s' : σ)
    (moves : List (Move σ)) : Prop where
  starts : startsOf moves = List.range jobs.length
  startsFirst : ∀ (k n : Nat) (own : Act σ), moves[n]? = some (.act k own) →
    ∃ m < n, moves[m]? = some (.start k)
  length : values.length = jobs.length
  goes : ∀ (k : Nat) (job : Job σ α) (value : α), jobs[k]? = some job → values[k]? = some value →
    job.Goes (actsOf k moves) (.done value)
  unbroken : Unbroken s (allActs moves) s'

theorem carriedOut_of_ofJobs {schedule : List Nat} {values : List α} {events : List Event}
    (h : ofJobs jobs schedule s = some (values, s', events)) :
    ∃ moves, events = moves.flatMap Move.events ∧ CarriedOut jobs s values s' moves := by
  obtain ⟨all, hall, hends⟩ := Option.map_eq_some_iff.mp h
  obtain ⟨rfl, rfl, rfl⟩ := Exec.end_eq_iff.mp (congrArg some hends)
  obtain ⟨hcome, hbegun⟩ := values?_eq_some_iff.mp hall
  have horderly := (orderly_init jobs s).run schedule
  have hlength : values.length = jobs.length := by
    rw [horderly.toCome.1, hcome, hbegun]
    simp
  refine ⟨_, rfl, ?_, horderly.startsFirst, hlength, ?_, horderly.unbroken⟩
  · rw [horderly.starts, hbegun, List.length_map, hlength]
  · intro k job value hjob hvalue
    obtain ⟨origin, horigin, hgoes⟩ := horderly.goes k (.done value) (by
      rw [hbegun, List.getElem?_map, hvalue]
      rfl)
    obtain rfl : origin = job := Option.some.inj (horigin.symm.trans hjob)
    exact hgoes

/-! ## §4. Fair schedules. -/

theorem goOn_length (r : Round σ α) (k : Nat) : (r.goOn k).begun.length = r.begun.length := by
  obtain hstays | ⟨β, act, next, b, left, events, hk, hact⟩ := goOn_cases r k
  · rw [hstays]
  · rw [goOn_of_some hk hact]
    exact List.length_set

theorem goOn_getElem?_of_ne {j k : Nat} (hne : k ≠ j) : (r.goOn k).begun[j]? = r.begun[j]? := by
  obtain hstays | ⟨β, act, next, b, left, events, hk, hact⟩ := goOn_cases r k
  · rw [hstays]
  · rw [goOn_of_some hk hact]
    exact List.getElem?_set_ne hne

/-- Jobs that were begun stay begun. -/
theorem length_le_turn (r : Round σ α) (k : Nat) :
    r.begun.length ≤ (r.turn k).begun.length := by
  unfold turn
  split
  · exact Nat.le_of_eq (goOn_length r k).symm
  · split
    · cases hcome : r.toCome with
      | nil => exact Nat.le_of_eq (by rw [start_nil hcome])
      | cons job rest =>
          rw [start_cons hcome, goOn_length, begin_length]
          exact Nat.le_succ _
    · exact Nat.le_refl _

/-- A turn leaves the jobs as they are whose turn it is not. -/
theorem turn_getElem?_of_ne {j k : Nat} (hj : j < r.begun.length) (hne : k ≠ j) :
    (r.turn k).begun[j]? = r.begun[j]? := by
  unfold turn
  split
  · exact goOn_getElem?_of_ne hne
  · split
    · rename_i hk
      cases hcome : r.toCome with
      | nil => rw [start_nil hcome]
      | cons job rest =>
          rw [start_cons hcome, ← hk, goOn_getElem?_of_ne hne]
          exact List.getElem?_append_left hj
    · rfl

/-- A round after so many turns of a schedule without end. -/
def after (r : Round σ α) (schedule : Nat → Nat) (n : Nat) : Round σ α :=
  r.run ((List.range n).map schedule)

theorem after_succ (r : Round σ α) (schedule : Nat → Nat) (n : Nat) :
    r.after schedule (n + 1) = (r.after schedule n).turn (schedule n) := by
  unfold after run
  rw [List.range_succ, List.map_append, List.foldl_append]
  rfl

section Fair

variable {schedule : Nat → Nat} {n m k : Nat}

theorem length_le_after (h : n ≤ m) :
    (r.after schedule n).begun.length ≤ (r.after schedule m).begun.length := by
  induction h with
  | refl => exact Nat.le_refl _
  | step _ ih =>
      rw [after_succ]
      exact Nat.le_trans ih (length_le_turn _ _)

/-- A job stays as it is as long as it has no turn. -/
theorem after_getElem?_of_ne {left : Job σ α} (hk : (r.after schedule n).begun[k]? = some left)
    (h : n ≤ m) (hne : ∀ j, n ≤ j → j < m → schedule j ≠ k) :
    (r.after schedule m).begun[k]? = some left := by
  induction h with
  | refl => exact hk
  | @step m hm ih =>
      have hnow := ih fun j hj hjm => hne j hj (Nat.lt_succ_of_lt hjm)
      rw [after_succ, turn_getElem?_of_ne (List.getElem?_eq_some_iff.mp hnow).1
        (hne m hm (Nat.lt_succ_self m))]
      exact hnow

/-- A job that is done stays done. -/
theorem after_getElem?_done {value : α}
    (hk : (r.after schedule n).begun[k]? = some (.done value)) (h : n ≤ m) :
    (r.after schedule m).begun[k]? = some (.done value) := by
  induction h with
  | refl => exact hk
  | @step m _ ih =>
      rw [after_succ]
      by_cases hturn : schedule m = k
      · rw [hturn, turn_of_lt (List.getElem?_eq_some_iff.mp ih).1]
        obtain hstays | ⟨β, act, next, b, left, events, hwait, -⟩ :=
          goOn_cases (r.after schedule m) k
        · rw [hstays]
          exact ih
        · exact absurd (Option.some.inj (ih.symm.trans hwait)) nofun
      · rw [turn_getElem?_of_ne (List.getElem?_eq_some_iff.mp ih).1 hturn]
        exact ih

/-- The first turn of a job from some time on. -/
theorem exists_first_turn (hfair : ∀ n, ∃ m ≥ n, schedule m = k) (n : Nat) :
    ∃ m ≥ n, schedule m = k ∧ ∀ j, n ≤ j → j < m → schedule j ≠ k := by
  classical
  have hexists : ∃ m, n ≤ m ∧ schedule m = k := hfair n
  obtain ⟨hle, hturn⟩ := Nat.find_spec hexists
  exact ⟨Nat.find hexists, hle, hturn, fun j hj hlt hk => Nat.find_min hexists hlt ⟨hj, hk⟩⟩

/-- **A job whose acts come to an end is done some time**, if it has its turn again and again. -/
theorem exists_done (hfair : ∀ n, ∃ m ≥ n, schedule m = k) {left : Job σ α} (hleft : left.Ends)
    (n : Nat) (hk : (r.after schedule n).begun[k]? = some left) :
    ∃ m ≥ n, ∃ value, (r.after schedule m).begun[k]? = some (.done value) := by
  induction hleft generalizing n with
  | done value => exact ⟨n, Nat.le_refl n, value, hk⟩
  | @wait β act next hact _ ih =>
      obtain ⟨m, hm, hturn, hnone⟩ := exists_first_turn hfair n
      have hnow := after_getElem?_of_ne hk hm hnone
      obtain ⟨⟨b, after, events⟩, hacts⟩ :=
        Option.isSome_iff_exists.mp (hact (r.after schedule m).state)
      have hlength := (List.getElem?_eq_some_iff.mp hnow).1
      obtain ⟨m', hm', value, hvalue⟩ := ih b (m + 1) (by
        rw [after_succ, hturn, turn_of_lt hlength, goOn_of_some hnow hacts]
        exact List.getElem?_set_self hlength)
      exact ⟨m', by omega, value, hvalue⟩

/-- Every job is begun some time. -/
theorem Orderly.exists_begun (h : Orderly jobs s r)
    (hfair : ∀ k < jobs.length, ∀ n, ∃ m ≥ n, schedule m = k) (hk : k ≤ jobs.length) :
    ∃ n, k ≤ (r.after schedule n).begun.length := by
  induction k with
  | zero => exact ⟨0, Nat.zero_le _⟩
  | succ k ih =>
      obtain ⟨n, hn⟩ := ih (by omega)
      obtain ⟨m, hm, hturn⟩ := hfair k (by omega) n
      have hlength : k ≤ (r.after schedule m).begun.length := Nat.le_trans hn (length_le_after hm)
      obtain hlt | heq := Nat.lt_or_eq_of_le hlength
      · exact ⟨m, hlt⟩
      · -- It is the turn of the next job, and there is one.
        refine ⟨m + 1, ?_⟩
        have hcome := (h.run ((List.range m).map schedule)).toCome.1
        change jobs.length = (r.after schedule m).begun.length + _ at hcome
        rw [after_succ, hturn, turn_of_eq heq]
        cases hrest : (r.after schedule m).toCome with
        | nil =>
            change (r.run ((List.range m).map schedule)).toCome = [] at hrest
            rw [hrest, List.length_nil] at hcome
            omega
        | cons job rest =>
            exact Nat.le_of_eq (by rw [start_cons hrest, goOn_length, begin_length, heq])

/-- All jobs up to a number are done some time. -/
theorem Orderly.exists_all_done (h : Orderly jobs s r) (hjobs : ∀ job ∈ jobs, job.Ends)
    (hfair : ∀ k < jobs.length, ∀ n, ∃ m ≥ n, schedule m = k) (hk : k ≤ jobs.length) :
    ∃ n, ∀ j < k, ∃ value, (r.after schedule n).begun[j]? = some (.done value) := by
  induction k with
  | zero => exact ⟨0, fun j hj => absurd hj (Nat.not_lt_zero j)⟩
  | succ k ih =>
      obtain ⟨n, hn⟩ := ih (by omega)
      obtain ⟨n', hbegun⟩ := h.exists_begun hfair hk
      -- From the later of both times on the next job is done some time.
      have hlt : k < (r.after schedule (max n n')).begun.length :=
        Nat.lt_of_succ_le (Nat.le_trans hbegun (length_le_after (Nat.le_max_right n n')))
      obtain ⟨job, hjob, hgoes⟩ := (h.run ((List.range (max n n')).map schedule)).goes k _
        (List.getElem?_eq_getElem hlt)
      have hends := hgoes.ends (hjobs job (List.mem_of_getElem? hjob))
      obtain ⟨m, hm, value, hvalue⟩ := exists_done (hfair k (by omega)) hends (max n n')
        (List.getElem?_eq_getElem hlt)
      refine ⟨m, fun j hj => ?_⟩
      obtain hj | rfl := Nat.lt_succ_iff_lt_or_eq.mp hj
      · obtain ⟨value, hvalue⟩ := hn j hj
        exact ⟨value, after_getElem?_done hvalue (by omega)⟩
      · exact ⟨value, hvalue⟩

end Fair

/-- **Under a fair schedule a round is over some time**, if every act comes to an end. -/
theorem ofJobs_fair (hjobs : ∀ job ∈ jobs, job.Ends) {schedule : Nat → Nat}
    (hfair : ∀ k < jobs.length, ∀ n, ∃ m ≥ n, schedule m = k) (s : σ) :
    ∃ n, (ofJobs jobs ((List.range n).map schedule) s).isSome := by
  have horderly := orderly_init jobs s
  obtain ⟨n, hn⟩ := horderly.exists_all_done hjobs hfair (Nat.le_refl _)
  refine ⟨n, ?_⟩
  have hover := horderly.run ((List.range n).map schedule)
  generalize hr : ({ toCome := jobs, state := s } : Round σ α) = r at hn horderly hover
  -- A job that was not begun would not be done.
  have hlength : (r.after schedule n).begun.length = jobs.length := by
    have hle : (r.after schedule n).begun.length ≤ jobs.length := by
      rw [hover.toCome.1]
      exact Nat.le_add_right _ _
    refine Nat.le_antisymm hle (Nat.le_of_not_lt fun hlt => ?_)
    obtain ⟨value, hvalue⟩ := hn _ hlt
    exact absurd (List.getElem?_eq_some_iff.mp hvalue).1 (Nat.lt_irrefl _)
  have hcome : (r.after schedule n).toCome = [] := by
    have hdrop := hover.toCome.2
    change (r.after schedule n).toCome = jobs.drop (r.after schedule n).begun.length at hdrop
    rw [hdrop, hlength, List.drop_length]
  -- So all jobs were begun and all are done.
  obtain ⟨values, hvalues⟩ : (r.after schedule n).begun ∈ Set.range (List.map Job.done) := by
    rw [Set.range_list_map]
    intro job hjob
    obtain ⟨k, hk⟩ := List.getElem?_of_mem hjob
    obtain ⟨value, hvalue⟩ := hn k (by rw [← hlength]; exact (List.getElem?_eq_some_iff.mp hk).1)
    exact ⟨value, Option.some.inj (hvalue.symm.trans hk)⟩
  have hall : (r.after schedule n).values? = some values :=
    values?_eq_some_iff.mpr ⟨hcome, hvalues.symm⟩
  unfold ofJobs
  rw [hr]
  change ((r.after schedule n).values?.map _).isSome = true
  rw [hall]
  rfl

/-! ## §5. Jobs that do not wait. -/

/-- The events of a round. -/
def events (r : Round σ α) : List Event :=
  r.moves.flatMap Move.events

/-- Where a round is after its next job was begun that does not wait: the job is done, as if it had
been carried out alone, or it cannot act. -/
theorem start_atOnce {values : List α} (hbegun : r.begun = values.map .done) {job : Job σ α}
    {rest : List (Job σ α)} (hcome : r.toCome = job :: rest) (hjob : job.AtOnce) :
    (∃ value left own, job.alone r.state = some (value, left, own) ∧
      r.start.begun = (values ++ [value]).map .done ∧ r.start.toCome = rest ∧
      r.start.state = left ∧ r.start.events = r.events ++ own) ∨
    (job.alone r.state = none ∧ job.value? = none ∧ r.start.begun = r.begun ++ [job]) := by
  have hlast : (r.begin job rest).begun[r.begun.length]? = some job :=
    List.getElem?_concat_length
  rw [start_cons hcome]
  cases hjob with
  | done value =>
      refine Or.inl ⟨value, r.state, [], rfl, ?_⟩
      rw [goOn_of_done hlast]
      simp [begin, events, hbegun, Move.events]
  | wait act f =>
      cases hact : act r.state with
      | none =>
          refine Or.inr ⟨Exec.bind_of_none hact, rfl, ?_⟩
          rw [goOn_of_none hlast hact]
          rfl
      | some ending =>
          obtain ⟨b, left, own⟩ := ending
          refine Or.inl ⟨f b, left, own, ?_, ?_⟩
          · exact (Exec.bind_of_some hact).trans (by simp [Job.alone, Exec.pure_apply])
          · rw [goOn_of_some hlast hact]
            simp [begin, events, hbegun, Move.events]

/-- A job that cannot go on and has no more turns keeps a round from being over. -/
theorem values?_eq_none {k : Nat} {left : Job σ α} (hk : r.begun[k]? = some left)
    (hleft : left.value? = none) {schedule : List Nat} (hnone : k ∉ schedule) :
    (r.run schedule).values? = none := by
  have hstays : (r.run schedule).begun[k]? = some left := by
    induction schedule generalizing r with
    | nil => exact hk
    | cons j rest ih =>
        obtain ⟨hj, hrest⟩ := not_or.mp (List.mem_cons.not.mp hnone)
        refine ih ?_ hrest
        rw [turn_getElem?_of_ne (List.getElem?_eq_some_iff.mp hk).1 (Ne.symm hj)]
        exact hk
  refine Option.eq_none_iff_forall_not_mem.mpr fun values hvalues => ?_
  have hdone := (values?_eq_some_iff.mp hvalues).2
  rw [hdone, List.getElem?_map] at hstays
  obtain ⟨value, -, rfl⟩ := Option.map_eq_some_iff.mp hstays
  contradiction

/-- What a round comes to from which on each job has one turn. -/
theorem run_range' {values : List α} (hbegun : r.begun = values.map .done)
    (hjobs : ∀ job ∈ r.toCome, job.AtOnce) :
    ((r.run (List.range' values.length r.toCome.length)).values?.map fun all =>
        (all, (r.run (List.range' values.length r.toCome.length)).state,
          (r.run (List.range' values.length r.toCome.length)).events))
      = (Job.inTurn r.toCome r.state).map fun ending =>
        (values ++ ending.1, ending.2.1, r.events ++ ending.2.2) := by
  generalize hcome : r.toCome = jobs at hjobs ⊢
  induction jobs generalizing r values with
  | nil =>
      have hall : r.values? = some values := values?_eq_some_iff.mpr ⟨hcome, hbegun⟩
      change r.values?.map _ = _
      rw [hall]
      simp [Job.inTurn, Exec.pure_apply, run]
  | cons job rest ih =>
      obtain ⟨hjob, hrest⟩ := List.forall_mem_cons.mp hjobs
      have hlength : r.begun.length = values.length := by rw [hbegun, List.length_map]
      rw [List.length_cons, List.range'_succ]
      change (((r.turn values.length).run _).values?.map fun all =>
        (all, ((r.turn values.length).run _).state, ((r.turn values.length).run _).events)) = _
      rw [turn_of_eq hlength.symm]
      obtain ⟨value, left, own, halone, hbegun', hcome', hstate', hevents'⟩ |
        ⟨halone, hvalue, hbegun'⟩ := start_atOnce hbegun hcome hjob
      · -- The job is done, and the others have their turns from where it has left the round.
        have hends := ih hbegun' hcome' hrest
        rw [List.length_append, List.length_cons, List.length_nil, Nat.zero_add] at hends
        rw [hends, hstate', hevents', Job.inTurn_cons_of_some rest halone, Option.map_map]
        simp [Function.comp_def]
      · -- The job waits, and it has no turn any more.
        have hlast : r.start.begun[values.length]? = some job := by
          rw [hbegun', ← hlength]
          exact List.getElem?_concat_length
        have hnone : (r.start.run (List.range' (values.length + 1) rest.length)).values? = none :=
          values?_eq_none hlast hvalue fun hturn => by
            have hlater := List.mem_range'_1.mp hturn
            omega
        rw [hnone, Job.inTurn_cons_of_none rest halone]
        rfl

/-- **Jobs that do not wait and have one turn each** are carried out one after the other. -/
theorem ofJobs_range (hjobs : ∀ job ∈ jobs, job.AtOnce) :
    ofJobs jobs (List.range jobs.length) = Job.inTurn jobs := by
  funext s
  have hnone : ([] : List (Job σ α)) = ([] : List α).map .done := rfl
  have hends := run_range' (r := { toCome := jobs, state := s }) hnone hjobs
  rw [List.length_nil, ← List.range_eq_range'] at hends
  refine hends.trans ?_
  cases Job.inTurn jobs s <;> simp [events]

/-- A turn of a job that is done changes nothing. -/
theorem turn_eq_self {values : List α} (hbegun : r.begun = values.map .done) {k : Nat}
    (hk : k < r.begun.length) : r.turn k = r := by
  obtain ⟨left, hleft⟩ : ∃ left, r.begun[k]? = some left := ⟨_, List.getElem?_eq_getElem hk⟩
  have hdone := hleft
  rw [hbegun, List.getElem?_map] at hdone
  obtain ⟨value, -, rfl⟩ := Option.map_eq_some_iff.mp hdone
  rw [turn_of_lt hk, goOn_of_done hleft]

/-- What a round comes to under a schedule that brings it to an end. -/
theorem run_atOnce {values more all : List α} {own : List Event} {schedule : List Nat}
    (hbegun : r.begun = values.map .done) (hjobs : ∀ job ∈ r.toCome, job.AtOnce)
    (hinTurn : Job.inTurn r.toCome r.state = some (more, s', own))
    (hall : (r.run schedule).values? = some all) :
    all = values ++ more ∧ (r.run schedule).state = s' ∧
      (r.run schedule).events = r.events ++ own := by
  induction schedule generalizing r values more own with
  | nil =>
      obtain ⟨hcome, hdone⟩ := values?_eq_some_iff.mp hall
      change r.toCome = [] at hcome
      change r.begun = all.map .done at hdone
      rw [hcome] at hinTurn
      obtain ⟨rfl, rfl, rfl⟩ := Exec.pure_eq_some_iff.mp hinTurn
      have hvalues : values = all :=
        List.map_inj_right (fun _ _ => Job.done.inj) |>.mp (hbegun.symm.trans hdone)
      exact ⟨by rw [hvalues, List.append_nil], rfl, (List.append_nil _).symm⟩
  | cons k rest ih =>
      change ((r.turn k).run rest).values? = some all at hall
      change all = _ ∧ ((r.turn k).run rest).state = _ ∧ ((r.turn k).run rest).events = _
      -- Only the turn of the next job changes the round: those that were begun are done.
      obtain hlt | heq | hgt := Nat.lt_trichotomy k r.begun.length
      · rw [turn_eq_self hbegun hlt] at hall ⊢
        exact ih hbegun hjobs hinTurn hall
      · rw [turn_of_eq heq] at hall ⊢
        cases hcome : r.toCome with
        | nil =>
            rw [start_nil hcome] at hall ⊢
            exact ih hbegun hjobs hinTurn hall
        | cons job jobs =>
            rw [hcome] at hjobs hinTurn
            obtain ⟨hjob, hrest⟩ := List.forall_mem_cons.mp hjobs
            obtain ⟨value, left, first, halone, hbegun', hcome', hstate', hevents'⟩ |
              ⟨halone, -, -⟩ := start_atOnce hbegun hcome hjob
            · rw [Job.inTurn_cons_of_some jobs halone] at hinTurn
              obtain ⟨⟨others, s₁, after⟩, hothers, hends⟩ := Option.map_eq_some_iff.mp hinTurn
              cases hends
              obtain ⟨rfl, hstate, hevents⟩ := ih hbegun' (by rw [hcome']; exact hrest)
                (by rw [hcome', hstate']; exact hothers) hall
              refine ⟨by simp, hstate, ?_⟩
              rw [hevents, hevents', List.append_assoc]
            · rw [Job.inTurn_cons_of_none jobs halone] at hinTurn
              contradiction
      · rw [turn_of_gt hgt] at hall ⊢
        exact ih hbegun hjobs hinTurn hall

/-- **Jobs that do not wait are carried out in turn under any schedule**, if they can be carried out
in turn and the schedule brings their round to an end. -/
theorem ofJobs_atOnce (hjobs : ∀ job ∈ jobs, job.AtOnce) {schedule : List Nat}
    {ending ending' : List α × σ × List Event} (hinTurn : Job.inTurn jobs s = some ending)
    (h : ofJobs jobs schedule s = some ending') : ending' = ending := by
  obtain ⟨all, hall, rfl⟩ := Option.map_eq_some_iff.mp h
  obtain ⟨more, s', own⟩ := ending
  have hnone : ([] : List (Job σ α)) = ([] : List α).map .done := rfl
  obtain ⟨hvalues, hstate, hevents⟩ :=
    run_atOnce (r := { toCome := jobs, state := s }) hnone hjobs hinTurn hall
  exact Prod.ext hvalues (Prod.ext hstate hevents)

end Round

end PromptEngine
