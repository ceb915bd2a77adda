/-
  PromptEngine.Engine.Pipeline — one invocation of a function, hooks included.

  An invocation is a row of attempts.  In an attempt the hooks are asked before the call, the body
  is carried out, and the hooks are asked after it; each round of hooks ends at the first one that
  does not want to proceed.  A hook may ask for another attempt as often as the configuration
  allows; after that the result stands.  An error that no hook took care of fails the invocation.
-/
import PromptEngine.Engine.Basic
import PromptEngine.Engine.Exec

namespace PromptEngine

/-- How an invocation ended. -/
inductive Outcome where
  | completed (result : FunctionResult)
  /-- A hook cancelled it; after the call, whatever result there was is kept. -/
  | cancelled (result : Option FunctionResult)
  /-- A hook skipped it. -/
  | skipped

namespace Outcome

/-- The result of an invocation, if it has one. -/
def result? : Outcome → Option FunctionResult
  | .completed result => some result
  | .cancelled result => result
  | .skipped => none

/-- The text of the result; without a result it is empty. -/
def text (o : Outcome) : String :=
  match o.result? with
  | some result => result.text
  | none => ""

end Outcome

/-- Something that carries out functions, given their arguments. -/
abbrev Caller (σ α : Type) :=
  Function σ → Arguments → Exec σ (Except EngineError α)

namespace Engine

variable {σ : Type}

/-! ## §1. Rounds of hooks. -/

/-- Ask hooks before a call. -/
def askBefore (d : Descriptor) : List (HookId × Hook σ) → Pending → Exec σ (PreAction × Pending)
  | [], pending => pure (.proceed, pending)
  | (id, hook) :: rest, pending => do
    let answer ← Exec.act (hook.before d pending)
    Exec.emit (.before id d pending answer)
    match answer.action with
    | .proceed => askBefore d rest (pending.revise answer)
    | action => return (action, pending.revise answer)

/-- Ask hooks after a call. -/
def askAfter (d : Descriptor) : List (HookId × Hook σ) → Finished → Exec σ (PostAction × Finished)
  | [], finished => pure (.proceed, finished)
  | (id, hook) :: rest, finished => do
    let answer ← Exec.act (hook.after d finished)
    Exec.emit (.after id d finished answer)
    match answer.action with
    | .proceed => askAfter d rest (finished.revise answer)
    | action => return (action, finished.revise answer)

/-! ## §2. Attempts. -/

/-- What a finished call comes to if it is not made again. -/
def conclude (d : Descriptor) (result : Option FunctionResult) : Outcome :=
  .completed (result.getD (.empty d))

/-- What an attempt comes to. -/
inductive Verdict where
  /-- The invocation is over. -/
  | over (outcome : Except EngineError Outcome)
  /-- Another attempt is wanted, with the given arguments; if there is none, the invocation is over
  with the given outcome. -/
  | again (arguments : Arguments) (otherwise : Outcome)

/-- What a call comes to that the hooks after it have left.  An error that is left comes before
anything that they want. -/
def judge (d : Descriptor) (action : PostAction) (finished : Finished) : Verdict :=
  match finished.error, action with
  | some error, _ => .over (.error (.execution d.qualifiedName error))
  | none, .proceed => .over (.ok (conclude d finished.result))
  | none, .cancel => .over (.ok (.cancelled finished.result))
  | none, .again replacement =>
    .again (replacement.getD finished.arguments) (conclude d finished.result)

/-- Make a call once, hooks included. -/
def attempt (hooks : List (HookId × Hook σ)) (body : Caller σ FunctionResult) (f : Function σ)
    (arguments : Arguments) : Exec σ Verdict := do
  let d := f.descriptor
  let (action, pending) ← askBefore d hooks { arguments }
  match action with
  | .cancel => return .over (.ok (.cancelled none))
  | .skip => return .over (.ok .skipped)
  | .proceed =>
    let outcome ← Exec.inside (.body d pending.arguments) (body f pending.arguments)
    let (action, finished) ← askAfter d hooks (.ofOutcome pending.arguments outcome)
    return judge d action finished

/-- Make a call and, as often as `repeats` allows, make it again. -/
def attempts (hooks : List (HookId × Hook σ)) (body : Caller σ FunctionResult) (f : Function σ) :
    Nat → Arguments → Exec σ (Except EngineError Outcome)
  | 0, arguments => do
    match ← attempt hooks body f arguments with
    | .over outcome => return outcome
    | .again _ otherwise => return .ok otherwise
  | repeats + 1, arguments => do
    match ← attempt hooks body f arguments with
    | .over outcome => return outcome
    | .again arguments _ => attempts hooks body f repeats arguments

/-- Invoke a function; `body` carries out function bodies. -/
def runFunction (e : Engine σ) (body : Caller σ FunctionResult) : Caller σ Outcome :=
  fun f arguments =>
    Exec.inside (.run f.descriptor arguments)
      (attempts e.hooks body f e.config.maxRepeats arguments)

end Engine

end PromptEngine
