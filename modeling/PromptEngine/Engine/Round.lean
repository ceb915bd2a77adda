/-
  PromptEngine.Engine.Round — jobs that are carried out at the same time.

  What a user's code does may have to wait: for an answer from outside, for a lock, for other code.
  A job is a row of acts.  An act is a computation on the state that it finds; if it comes to no end
  in a state, it is not carried out in it, and the job waits.  In a round several jobs are begun in
  their order, none of them waiting for those before it to be done, and go on act by act in whatever
  order a schedule says.  A round has its values when all its jobs are done.
-/
import PromptEngine.Engine.Exec

namespace PromptEngine

variable {σ α β : Type}

/-! ## §1. Jobs. -/

/-- Something to be done in acts, between which others may act on the state. -/
inductive Job (σ α : Type) : Type 1 where
  | done (value : α)
  /-- An act comes next, and then what its value asks for. -/
  | wait {β : Type} (act : Exec σ β) (next : β → Job σ α)

namespace Job

/-- A job that is done in a single act. -/
def once (x : Exec σ α) : Job σ α :=
  .wait x .done

/-- The same job with its value changed. -/
def map (f : α → β) : Job σ α → Job σ β
  | .done value => .done (f value)
  | .wait act next => .wait act fun b => (next b).map f

/-- The value of a job that is done. -/
def value? : Job σ α → Option α
  | .done value => some value
  | .wait _ _ => none

/-- All acts of a job, one right after the other. -/
def alone : Job σ α → Exec σ α
  | .done value => pure value
  | .wait act next => act >>= fun b => (next b).alone

end Job

/-! ## §2. Rounds. -/

/-- An act that was carried out: the states before and after it, and what happened. -/
structure Act (σ : Type) where
  found : σ
  left : σ
  events : List Event

/-- What happens in a round.  Jobs are known by their numbers, from 0. -/
inductive Move (σ : Type) where
  /-- A job was begun. -/
  | start (job : Nat)
  /-- A job that was begun carried out its next act. -/
  | act (job : Nat) (act : Act σ)

/-- The events of a move. -/
def Move.events : Move σ → List Event
  | .start _ => []
  | .act _ own => own.events

/-- Several jobs, some of them begun. -/
structure Round (σ α : Type) : Type 1 where
  /-- The jobs that were begun, as far as they have come. -/
  begun : List (Job σ α) := []
  /-- The jobs that were not. -/
  toCome : List (Job σ α)
  state : σ
  /-- Everything that has happened. -/
  moves : List (Move σ) := []

namespace Round

/-- Let a job that was begun go on by an act, if it can. -/
def goOn (r : Round σ α) (job : Nat) : Round σ α :=
  match r.begun[job]? with
  | some (.wait act next) =>
    match act r.state with
    | some (b, left, events) =>
      { r with
        begun := r.begun.set job (next b)
        state := left
        moves := r.moves ++ [.act job { found := r.state, left, events }] }
    | none => r
  | _ => r

/-- Begin the next job; it goes on at once if it can. -/
def start (r : Round σ α) : Round σ α :=
  match r.toCome with
  | [] => r
  | job :: rest =>
    { r with
      begun := r.begun ++ [job]
      toCome := rest
      moves := r.moves ++ [.start r.begun.length] : Round σ α }.goOn r.begun.length

/-- A job has its turn.  It is begun only if all jobs before it were. -/
def turn (r : Round σ α) (job : Nat) : Round σ α :=
  if job < r.begun.length then r.goOn job
  else if job = r.begun.length then r.start
  else r

/-- Jobs have their turns as a schedule says. -/
def run (r : Round σ α) (schedule : List Nat) : Round σ α :=
  schedule.foldl turn r

/-- The values of all jobs, if all are done. -/
def values? (r : Round σ α) : Option (List α) :=
  match r.toCome with
  | [] => r.begun.mapM Job.value?
  | _ :: _ => none

/-- Carry out jobs at the same time, as a schedule says.  If they are not all done at its end, there
is no outcome. -/
def ofJobs (jobs : List (Job σ α)) (schedule : List Nat) : Exec σ (List α) := fun s =>
  let r := ({ toCome := jobs, state := s } : Round σ α).run schedule
  r.values?.map fun values => (values, r.state, r.moves.flatMap Move.events)

end Round

end PromptEngine
