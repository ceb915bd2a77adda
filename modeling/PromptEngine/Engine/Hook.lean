/-
  PromptEngine.Engine.Hook — hooks around function calls.

  A hook is asked before a call and after it.  Before, it may replace the arguments, cancel the
  call or skip it.  After, it may change the arguments for another attempt, replace or remove the
  result, take care of an error, cancel, or ask for another attempt.  A hook answers with what it
  wants; `Pending.revise` and `Finished.revise` say what the answer changes.
-/
import PromptEngine.Engine.Error
import PromptEngine.Function.Result

namespace PromptEngine

/-- The handle of a hook. -/
structure HookId where
  number : Nat
  deriving DecidableEq, Repr

/-! ## §1. Before a call. -/

/-- What a hook wants to happen before a call. -/
inductive PreAction where
  | proceed
  /-- Stop; the function is not called. -/
  | cancel
  /-- Stop like `cancel`; the caller is told the difference. -/
  | skip
  deriving DecidableEq, Repr

/-- A call that is about to be made. -/
structure Pending where
  arguments : Arguments
  /-- Whether a hook has replaced the arguments. -/
  replaced : Bool := false

/-- A hook's answer before a call; `arguments` replace those of the call. -/
structure PreAnswer where
  action : PreAction := .proceed
  arguments : Option Arguments := none

namespace Pending

/-- The call as a hook's answer leaves it. -/
def revise (p : Pending) (answer : PreAnswer) : Pending :=
  match answer.arguments with
  | some arguments => { arguments, replaced := true }
  | none => p

end Pending

/-! ## §2. After a call. -/

/-- What a hook wants to happen after a call. -/
inductive PostAction where
  | proceed
  /-- Stop and return whatever result there is. -/
  | cancel
  /-- Make the call again, with the given arguments or with those that the hooks left. -/
  | again (arguments : Option Arguments)

/-- A call that has been made.  A call that failed has an error and no result. -/
structure Finished where
  arguments : Arguments
  result : Option FunctionResult
  error : Option EngineError

/-- A hook's answer after a call: what it leaves, and whether it took care of the error. -/
structure PostAnswer where
  action : PostAction := .proceed
  arguments : Arguments
  result : Option FunctionResult
  handled : Bool := false

namespace Finished

/-- A call with the given outcome. -/
def ofOutcome (arguments : Arguments) : Except EngineError FunctionResult → Finished
  | .ok result => { arguments, result := some result, error := none }
  | .error error => { arguments, result := none, error := some error }

/-- The call as a hook's answer leaves it. -/
def revise (f : Finished) (answer : PostAnswer) : Finished :=
  { arguments := answer.arguments
    result := answer.result
    error := if answer.handled then none else f.error }

end Finished

/-- The answer that changes nothing. -/
def PostAnswer.keep (f : Finished) : PostAnswer :=
  { arguments := f.arguments, result := f.result }

/-! ## §3. Hooks. -/

/-- A hook.  Its answers may depend on a state that they change. -/
structure Hook (σ : Type) where
  before : Descriptor → Pending → σ → PreAnswer × σ := fun _ _ s => ({}, s)
  after : Descriptor → Finished → σ → PostAnswer × σ := fun _ f s => (.keep f, s)

end PromptEngine
