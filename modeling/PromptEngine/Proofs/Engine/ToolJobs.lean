/-
  PromptEngine.Proofs.Engine.ToolJobs — requests for tools as jobs of a round.

  A request is refused, answered without a call, or it is the call of one function
  (`prepareTool_cases`).  As a job it makes this call, whose outcome becomes the answer
  (`toolJob_goes`).  If calls do not wait, the requests of a reply are
  carried out one after the other (`resolveEach_cons`).  Only when all of them have an outcome are
  these put together (`answerRound_eq_some_iff`).
-/
import PromptEngine.Engine.Invoke
import PromptEngine.Proofs.Engine.Round

namespace PromptEngine

variable {σ : Type}

namespace Engine

variable {e : Engine σ} {arguments : Arguments}

/-! ## §1. What a request comes to. -/

/-- What a request comes to: arguments that cannot be read are answered, a tool that is not there
is refused, and a call is made only if it lacks nothing. -/
theorem prepareTool_cases (e : Engine σ) (arguments : Arguments) (request : ToolCall) :
    (∃ fault, request.readArguments = .error fault ∧
        e.prepareTool arguments request
          = .ok (.answer (.toolResult request.id request.name malformedArguments))) ∨
      ∃ given, request.readArguments = .ok given ∧
        ((∃ error, e.registry.resolveTool request.name = .error error ∧
            e.prepareTool arguments request = .error error) ∨
          ∃ f, e.registry.resolveTool request.name = .ok f ∧
            ((missingNames f.descriptor (arguments.insertAll given) = [] ∧
                e.prepareTool arguments request = .ok (.call f (arguments.insertAll given))) ∨
              ∃ name more,
                missingNames f.descriptor (arguments.insertAll given) = name :: more ∧
                e.prepareTool arguments request = .ok (.answer (.toolResult request.id
                  f.descriptor.toolName (missingArguments (name :: more)))))) := by
  unfold prepareTool
  cases hread : request.readArguments with
  | error fault => exact .inl ⟨fault, rfl, rfl⟩
  | ok given =>
      refine .inr ⟨given, rfl, ?_⟩
      cases hresolve : e.registry.resolveTool request.name with
      | error error => exact .inl ⟨error, rfl, rfl⟩
      | ok f =>
          refine .inr ⟨f, rfl, ?_⟩
          cases hmissing : missingNames f.descriptor (arguments.insertAll given) with
          | nil => exact .inl ⟨rfl, by simp only [bind, Except.bind, hmissing]; rfl⟩
          | cons name more =>
              exact .inr ⟨name, more, rfl, by simp only [bind, Except.bind, hmissing]; rfl⟩

/-- A request is a call if it can be read, finds its function and lacks nothing; what the model
gives is written over the arguments of the conversation. -/
theorem prepareTool_eq_call_iff {request : ToolCall} {f : Function σ} {table : Arguments} :
    e.prepareTool arguments request = .ok (.call f table) ↔
      ∃ given, request.readArguments = .ok given ∧ e.registry.resolveTool request.name = .ok f ∧
        missingNames f.descriptor (arguments.insertAll given) = [] ∧
        table = arguments.insertAll given := by
  obtain ⟨fault, hread, hprepare⟩ | ⟨given, hread, ⟨error, hresolve, hprepare⟩ |
    ⟨g, hresolve, ⟨hmissing, hprepare⟩ | ⟨name, more, hmissing, hprepare⟩⟩⟩ :=
      prepareTool_cases e arguments request
  · simp [hread, hprepare]
  · simp [hread, hresolve, hprepare]
  · rw [hprepare]
    constructor
    · intro h
      cases h
      exact ⟨given, hread, hresolve, hmissing, rfl⟩
    · rintro ⟨given', hread', hresolve', -, rfl⟩
      obtain rfl := Except.ok.inj (hread.symm.trans hread')
      obtain rfl := Except.ok.inj (hresolve.symm.trans hresolve')
      rfl
  · rw [hprepare]
    constructor
    · intro h
      cases h
    · rintro ⟨given', hread', hresolve', hnone, -⟩
      obtain rfl := Except.ok.inj (hread.symm.trans hread')
      obtain rfl := Except.ok.inj (hresolve.symm.trans hresolve')
      rw [hmissing] at hnone
      contradiction

/-! ## §2. Calls that do not wait. -/

theorem atOnce_toolJob (invoke : Caller σ Outcome) (arguments : Arguments) (request : ToolCall) :
    (e.toolJob (.atOnce invoke) arguments request).AtOnce := by
  unfold toolJob
  cases e.prepareTool arguments request with
  | error error => exact .done _
  | ok prepared =>
      cases prepared with
      | answer message => exact .done _
      | call f given => exact .wait (invoke f given) _

/-- Carrying out a request makes its call, if it comes to one. -/
theorem resolveTool_eq (invoke : Caller σ Outcome) (arguments : Arguments) (request : ToolCall) :
    e.resolveTool invoke arguments request =
      match e.prepareTool arguments request with
      | .error error => pure (.error error)
      | .ok (.answer message) => pure (.ok message)
      | .ok (.call f given) =>
        Exec.orFail (invoke f given) fun outcome =>
          pure (.ok (.toolResult request.id f.descriptor.toolName outcome.text)) := by
  unfold resolveTool toolJob
  cases e.prepareTool arguments request with
  | error error => rfl
  | ok prepared =>
      cases prepared with
      | answer message => rfl
      | call f given =>
          refine bind_congr fun outcome => ?_
          cases outcome <;> rfl

/-- Requests whose calls do not wait are carried out one after the other. -/
theorem resolveEach_eq (invoke : Caller σ Outcome) (arguments : Arguments)
    (requests : List ToolCall) :
    e.resolveEach invoke arguments requests
      = Job.inTurn (requests.map (e.toolJob (.atOnce invoke) arguments)) := by
  have hjobs : ∀ job ∈ requests.map (e.toolJob (.atOnce invoke) arguments), job.AtOnce := by
    intro job hjob
    obtain ⟨request, -, rfl⟩ := List.mem_map.mp hjob
    exact atOnce_toolJob invoke arguments request
  rw [← Round.ofJobs_range hjobs, List.length_map]
  rfl

theorem resolveEach_nil (invoke : Caller σ Outcome) (arguments : Arguments) :
    e.resolveEach invoke arguments [] = pure [] := by
  rw [resolveEach_eq]
  rfl

theorem resolveEach_cons (invoke : Caller σ Outcome) (arguments : Arguments) (request : ToolCall)
    (rest : List ToolCall) :
    e.resolveEach invoke arguments (request :: rest) = (do
      let first ← e.resolveTool invoke arguments request
      let more ← e.resolveEach invoke arguments rest
      return first :: more) := by
  rw [resolveEach_eq, resolveEach_eq]
  rfl

/-! ## §3. The history. -/

section Answered

variable {depth : Nat} {history : History} {requests : List ToolCall} {s s' : σ}
  {events : List Event} {ending : Except EngineError Unit × History}

/-- Requests are carried out, and only then their outcomes are collected. -/
theorem answerRound_eq_some_iff {invoke : Starter σ Outcome} {schedule : List Nat} :
    e.answerRound invoke schedule history requests arguments s = some (ending, s', events) ↔
      ∃ answers, e.resolveRound invoke schedule arguments requests s
          = some (answers, s', events) ∧
        ending = joinAnswers history answers := by
  unfold answerRound
  rw [Exec.bind_eq_some_iff]
  constructor
  · rintro ⟨answers, s₁, first, rest, hresolve, hlast, rfl⟩
    obtain ⟨rfl, rfl, rfl⟩ := Exec.pure_eq_some_iff.mp hlast
    exact ⟨answers, by rw [hresolve, List.append_nil], rfl⟩
  · rintro ⟨answers, hresolve, rfl⟩
    exact ⟨answers, s', events, [], hresolve, rfl, (List.append_nil events).symm⟩

theorem answerTools_eq_some_iff :
    e.answerTools depth history requests arguments s = some (ending, s', events) ↔
      ∃ answers, e.resolveEach (e.caller depth) arguments requests s
          = some (answers, s', events) ∧
        ending = joinAnswers history answers :=
  answerRound_eq_some_iff

end Answered

/-! ## §4. Calls that may wait. -/

/-- What a request has done when it has an outcome: nothing, if it fails or is answered without a
call, or all acts of exactly one call, whose result becomes the answer. -/
theorem toolJob_goes {invoke : Starter σ Outcome} {request : ToolCall} {acts : List (Act σ)}
    {answer : Except EngineError Message}
    (h : (e.toolJob invoke arguments request).Goes acts (.done answer)) :
    (∃ error, e.prepareTool arguments request = .error error ∧ answer = .error error ∧
        acts = []) ∨
      (∃ message, e.prepareTool arguments request = .ok (.answer message) ∧
        answer = .ok message ∧ acts = []) ∨
      ∃ f given outcome, e.prepareTool arguments request = .ok (.call f given) ∧
        (invoke f given).Goes acts (.done outcome) ∧
        answer = outcome.map fun outcome =>
          .toolResult request.id f.descriptor.toolName outcome.text := by
  unfold toolJob at h
  cases hprepare : e.prepareTool arguments request with
  | error error =>
      rw [hprepare] at h
      obtain ⟨rfl, hanswer⟩ := Job.goes_done_iff.mp h
      exact Or.inl ⟨error, rfl, Job.done.inj hanswer, rfl⟩
  | ok prepared =>
      rw [hprepare] at h
      cases prepared with
      | answer message =>
          obtain ⟨rfl, hanswer⟩ := Job.goes_done_iff.mp h
          exact Or.inr (Or.inl ⟨message, rfl, Job.done.inj hanswer, rfl⟩)
      | call f given =>
          obtain ⟨outcome, hgoes, hanswer⟩ := h.of_map
          exact Or.inr (Or.inr ⟨f, given, outcome, rfl, hgoes, hanswer⟩)

end Engine

end PromptEngine
