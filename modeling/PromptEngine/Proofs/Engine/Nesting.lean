/-
  PromptEngine.Proofs.Engine.Nesting — what ends, and the one way not to end.

  The budget of a conversation bounds its own rounds.  It does not bound what goes on inside them:
  a prompt function that is invoked, by a template or as a tool, renders a template and leads a
  conversation of its own, with the whole budget again.  So prompt functions may nest in each other
  and in themselves, and nothing stops them (`relapse_never_ends`).  Nothing else goes on for ever.
  A conversation or a template comes to an end, at some depth and then at every greater one in the
  same way, unless there is an endless row of calls of registered prompt functions, each of them
  awaited inside the one before.  Native bodies call nothing, and they, hooks and services return:
  that is how functions, hooks and services are here.

  Main result: `Engine.ends_unless_nesting`.
-/
import Mathlib
import PromptEngine.Proofs.Engine.Asking

namespace PromptEngine

variable {σ α β : Type}

/-- A function with a prompt for its body. -/
def Function.IsPrompt (f : Function σ) : Prop :=
  ∃ template settings, f.body = .prompt template settings

/-! ## §1. Callers at greater depths. -/

/-- What makes no calls has the same end for every caller. -/
theorem Asks.const {y : Caller σ Outcome → Option β} (hy : Asks (fun _ => False) y) :
    ∃ b, ∀ invoke, y invoke = some b := by
  cases hy with
  | value b => exact ⟨b, fun _ => rfl⟩
  | call c hc _ => exact hc.elim

namespace Engine

variable {e : Engine σ}

theorem answersAlike_caller_succ (depth : Nat) :
    AnswersAlike (e.caller depth) (e.caller (depth + 1)) := by
  induction depth with
  | zero =>
      intro c answer h
      contradiction
  | succ depth ih =>
      -- The calls inside are made one level further down, where they are answered alike.
      intro c answer h
      exact (asking_pipeline c c.state).mono ih h

/-- **At a greater depth** calls are answered as they were. -/
theorem answersAlike_caller {depth deeper : Nat} (h : depth ≤ deeper) :
    AnswersAlike (e.caller depth) (e.caller deeper) := by
  induction deeper, h using Nat.le_induction with
  | base => exact fun _ _ h => h
  | succ deeper _ ih =>
      exact fun c answer h => answersAlike_caller_succ deeper c answer (ih c answer h)

/-! ## §2. Ends, and calls that are awaited. -/

/-- A computation that may nest calls as deep as it is told comes to an end, at some depth and then
at every greater one in the same way. -/
def Ends (run : Nat → Exec σ α) (s : σ) : Prop :=
  ∃ depth result, ∀ deeper, depth ≤ deeper → run deeper s = some result

/-- A computation awaits a call: whoever answers the other calls as the engine does, where it
answers them, and leaves this one without an answer, leaves the computation without an end. -/
def Awaits (e : Engine σ) (y : Caller σ Outcome → Option β) (c : Call σ) : Prop :=
  ∀ invoke : Caller σ Outcome,
    (∀ depth other answer, other ≠ c → other.answer (e.caller depth) = some answer →
      other.answer invoke = some answer) →
    c.answer invoke = none → y invoke = none

/-- No depth is enough for a call. -/
def Unanswered (e : Engine σ) (c : Call σ) : Prop :=
  ∀ depth, c.answer (e.caller depth) = none

/-- **What comes to no end awaits a call** of a registered function, for which no depth is enough
either. -/
theorem end_or_awaits {y : Caller σ Outcome → Option β} (hy : Asks e.Registered y) :
    (∃ depth b, y (e.caller depth) = some b) ∨
      ∃ c, e.Registered c.function ∧ e.Unanswered c ∧ e.Awaits y c := by
  induction hy with
  | value b => exact Or.inl ⟨0, b, rfl⟩
  | @call c hc next hnext ih =>
      by_cases hanswered : ∃ depth answer, c.answer (e.caller depth) = some answer
      · obtain ⟨depth, answer, hanswer⟩ := hanswered
        obtain ⟨deeper, b, hend⟩ | ⟨inner, hinner, hunanswered, hawaits⟩ := ih answer
        · -- Both the answer and the end are there at the greater of the two depths.
          refine Or.inl ⟨max depth deeper, b, Option.bind_eq_some_iff.2 ⟨answer, ?_, ?_⟩⟩
          · exact answersAlike_caller (Nat.le_max_left _ _) c answer hanswer
          · exact (hnext answer).mono (answersAlike_caller (Nat.le_max_right _ _)) hend
        · refine Or.inr ⟨inner, hinner, hunanswered, fun invoke hothers hnone => ?_⟩
          have hne : c ≠ inner := by
            rintro rfl
            rw [hunanswered depth] at hanswer
            contradiction
          show (c.answer invoke).bind _ = none
          rw [hothers depth c answer hne hanswer]
          exact hawaits invoke hothers hnone
      · refine Or.inr ⟨c, hc, fun depth => ?_, fun invoke _ hnone => ?_⟩
        · cases hanswer : c.answer (e.caller depth) with
          | none => rfl
          | some answer => exact absurd ⟨depth, answer, hanswer⟩ hanswered
        · show (c.answer invoke).bind _ = none
          rw [hnone]
          rfl

open Classical in
/-- The answers of the engine at any depth, but for one call. -/
noncomputable def allBut (e : Engine σ) (c : Call σ) : Caller σ Outcome := fun f arguments s =>
  if (⟨f, arguments, s⟩ : Call σ) = c then none
  else if h : ∃ answer depth, e.caller depth f arguments s = some answer then some h.choose
  else none

theorem answer_allBut_self (c : Call σ) : c.answer (e.allBut c) = none :=
  if_pos rfl

theorem answer_allBut {c other : Call σ} (hne : other ≠ c) {depth : Nat}
    {answer : Call.Answer σ} (h : other.answer (e.caller depth) = some answer) :
    other.answer (e.allBut c) = some answer := by
  have hsome : ∃ answer depth, other.answer (e.caller depth) = some answer := ⟨answer, depth, h⟩
  have hchosen : other.answer (e.allBut c) = some hsome.choose :=
    (if_neg hne).trans (dif_pos hsome)
  -- Two answers are the same at the greater of their depths.
  obtain ⟨depth', h'⟩ := hsome.choose_spec
  have hmax := answersAlike_caller (Nat.le_max_left depth depth') other answer h
  rw [answersAlike_caller (Nat.le_max_right depth depth') other _ h'] at hmax
  rw [hchosen, hmax]

/-- A computation has no end at a depth that is not enough for a call that it awaits. -/
theorem Awaits.none_of_none {y : Caller σ Outcome → Option β} (hy : Asks e.Registered y)
    {c : Call σ} (h : e.Awaits y c) {depth : Nat} (hc : c.answer (e.caller depth) = none) :
    y (e.caller depth) = none := by
  have hnone : y (e.allBut c) = none :=
    h _ (fun depth other answer hne => answer_allBut hne) (answer_allBut_self c)
  cases hend : y (e.caller depth) with
  | none => rfl
  | some b =>
      have halike : AnswersAlike (e.caller depth) (e.allBut c) := by
        intro other answer hanswer
        refine answer_allBut ?_ hanswer
        rintro rfl
        rw [hc] at hanswer
        contradiction
      rw [hy.mono halike hend] at hnone
      contradiction

/-! ## §3. Calls inside calls. -/

/-- The calls of registered prompt functions that a call awaits. -/
structure Inside (e : Engine σ) (inner outer : Call σ) : Prop where
  registered : e.Registered inner.function
  isPrompt : inner.function.IsPrompt
  awaited : e.Awaits (fun invoke => e.pipeline outer invoke outer.state) inner

/-- Only a call of a prompt function can be left without an answer. -/
theorem isPrompt_of_unanswered {c : Call σ} (h : e.Unanswered c) : c.function.IsPrompt := by
  cases hbody : c.function.body with
  | prompt template settings => exact ⟨template, settings, hbody⟩
  | native compute =>
      have hpipeline : Asking (fun _ => False) (e.pipeline c) :=
        asking_runFunction (asking_native hbody) c.arguments
      obtain ⟨answer, hanswer⟩ := (hpipeline c.state).const
      have hone := h 1
      rw [answer_caller_succ, hanswer] at hone
      contradiction

/-- **A call is answered at some depth** if the calls inside it do not go down for ever. -/
theorem answered_of_acc {c : Call σ} (h : Acc e.Inside c) : ¬ e.Unanswered c := by
  -- The induction is on the calls inside: none of them is left without an answer.
  induction h with
  | intro c _ ih =>
      intro hunanswered
      obtain ⟨depth, answer, hanswer⟩ | ⟨inner, hregistered, hinner, hawaits⟩ :=
        end_or_awaits (asking_pipeline (e := e) c c.state)
      · have hnone := hunanswered (depth + 1)
        rw [answer_caller_succ, hanswer] at hnone
        contradiction
      · exact ih inner ⟨hregistered, isPrompt_of_unanswered hinner, hawaits⟩ hinner

/-- No depth is enough for any of the calls of an endless row. -/
theorem unanswered_of_endless {calls : Nat → Call σ}
    (h : ∀ n, e.Inside (calls (n + 1)) (calls n)) (n : Nat) : e.Unanswered (calls n) := by
  intro depth
  -- Each call needs one level more than the next, and there is always a next one.
  induction depth generalizing n with
  | zero => rfl
  | succ depth ih =>
      rw [answer_caller_succ]
      exact (h n).awaited.none_of_none (asking_pipeline (calls n) _) (ih (n + 1))

/-- Calls of registered prompt functions nest without end: a computation awaits the first, and each
awaits the next. -/
structure Nesting (e : Engine σ) (y : Caller σ Outcome → Option β) (calls : Nat → Call σ) :
    Prop where
  registered : ∀ n, e.Registered (calls n).function
  isPrompt : ∀ n, (calls n).function.IsPrompt
  first : e.Awaits y (calls 0)
  next : ∀ n, e.Awaits (fun invoke => e.pipeline (calls n) invoke (calls n).state) (calls (n + 1))

/-- **What has no end is an endless nesting**, and the other way round. -/
theorem ends_iff_not_nesting {x : Caller σ Outcome → Exec σ α} (hx : Asking e.Registered x)
    (s : σ) :
    Ends (fun depth => x (e.caller depth)) s ↔
      ¬ ∃ calls, e.Nesting (fun invoke => x invoke s) calls := by
  constructor
  · rintro ⟨depth, result, hend⟩ ⟨calls, hnesting⟩
    have hrow : ∀ n, e.Inside (calls (n + 1)) (calls n) := fun n =>
      ⟨hnesting.registered _, hnesting.isPrompt _, hnesting.next n⟩
    have hnone := hnesting.first.none_of_none (hx s) (unanswered_of_endless hrow 0 depth)
    rw [show x (e.caller depth) s = some result from hend depth (Nat.le_refl depth)] at hnone
    contradiction
  · intro hnesting
    obtain ⟨depth, result, hend⟩ | ⟨c, hregistered, hunanswered, hawaits⟩ := end_or_awaits (hx s)
    · exact ⟨depth, result, fun deeper hle => (hx s).mono (answersAlike_caller hle) hend⟩
    · -- From a call without an answer the calls inside go down for ever.
      have hacc : ¬ Acc e.Inside c := fun h => answered_of_acc h hunanswered
      obtain ⟨calls, rfl, hrow⟩ := not_acc_iff_exists_descending_chain.1 hacc
      refine absurd ⟨calls, fun n => ?_, fun n => ?_, hawaits, fun n => (hrow n).awaited⟩ hnesting
      · cases n with
        | zero => exact hregistered
        | succ n => exact (hrow n).registered
      · cases n with
        | zero => exact isPrompt_of_unanswered hunanswered
        | succ n => exact (hrow n).isPrompt

/-- In an endless nesting some function comes again and again. -/
theorem Nesting.recurs {y : Caller σ Outcome → Option β} {calls : Nat → Call σ}
    (h : e.Nesting y calls) :
    ∃ f, e.Registered f ∧ f.IsPrompt ∧ ∀ n, ∃ m, n < m ∧ (calls m).function = f := by
  have : Finite {f // f ∈ e.registry.functions} := (List.finite_toSet _).to_subtype
  obtain ⟨⟨f, hf⟩, hinfinite⟩ := Finite.exists_infinite_fiber
    fun n => (⟨(calls n).function, h.registered n⟩ : {f // f ∈ e.registry.functions})
  have hoften : ∀ n, ∃ m, n < m ∧ (calls m).function = f := by
    intro n
    obtain ⟨m, hm, hlt⟩ := (Set.infinite_coe_iff.1 hinfinite).exists_gt n
    exact ⟨m, hlt, congrArg Subtype.val hm⟩
  obtain ⟨m, -, hm⟩ := hoften 0
  exact ⟨f, hf, hm ▸ h.isPrompt m, hoften⟩

/-! ## §4. Conversations and templates. -/

/-- A conversation asks its service no more often than its budget allows, whatever goes on inside
its rounds. -/
theorem length_requests_le {o : ConversationOptions} {streamed : Bool} {service : Service σ}
    {settings : Settings} {arguments : Arguments} {history : History} {s s' : σ} {depth : Nat}
    {result : Except EngineError Message × History} {events : List Event}
    (h : e.converse (e.caller depth) o streamed service settings arguments history s
      = some (result, s', events)) : (requests events).length ≤ o.rounds := by
  obtain ⟨more, hmore⟩ := rounds_eq_succ o
  rw [converse_eq_leadRounds, hmore] at h
  obtain ⟨exchanges, s₁, before, after, hexchanges, hlength, hlast, rfl⟩ :=
    leadRounds_run more history s events h
  rw [requests_append, hexchanges.complete.2, hlast.requests, List.length_append,
    List.length_map, List.length_range, List.length_singleton, hmore]
  omega

/-- **A text is rendered** to an end exactly if it is no template, or no calls nest in that of its
template without end. -/
theorem ends_render_iff (source : String) (arguments : Arguments) (s : σ) :
    Ends (fun depth => e.render (e.caller depth) source arguments) s ↔
      ¬ ∃ template calls, Template.parse source = .ok template ∧
        e.Nesting (fun invoke => e.renderTemplate invoke template arguments e.config.trust s)
          calls := by
  unfold render
  cases Template.parse source with
  | error error =>
      -- What is wrong with the text is told at any depth.
      refine iff_of_true ⟨0, (.error (.template error), s, []), fun deeper _ => rfl⟩ ?_
      rintro ⟨template, calls, hok, -⟩
      contradiction
  | ok template =>
      dsimp only
      rw [ends_iff_not_nesting (asking_renderTemplate template arguments _) s]
      refine not_congr ⟨?_, ?_⟩
      · rintro ⟨calls, hnesting⟩
        exact ⟨template, calls, rfl, hnesting⟩
      · rintro ⟨_, calls, hok, hnesting⟩
        obtain rfl := Except.ok.inj hok
        exact ⟨calls, hnesting⟩

/-- **What ends.**  A conversation comes to an end exactly if no calls nest in it without end, and
its own requests are no more than its budget.  The rendering of a text, which may be no template,
comes to an end exactly if no calls nest in that of its template without end.  The calls of such a
nesting are all of registered prompt functions, and one function comes again and again. -/
theorem ends_unless_nesting (e : Engine σ) :
    (∀ (o : ConversationOptions) (streamed : Bool) (service : Service σ) (settings : Settings)
        (arguments : Arguments) (history : History) (s : σ),
      (Ends (fun depth =>
          e.converse (e.caller depth) o streamed service settings arguments history) s ↔
        ¬ ∃ calls, e.Nesting
          (fun invoke => e.converse invoke o streamed service settings arguments history s) calls) ∧
      ∀ depth result s' events,
        e.converse (e.caller depth) o streamed service settings arguments history s
          = some (result, s', events) →
        (requests events).length ≤ if o.autoInvoke then max 1 o.maxAttempts else 1) ∧
    (∀ (source : String) (arguments : Arguments) (s : σ),
      Ends (fun depth => e.render (e.caller depth) source arguments) s ↔
        ¬ ∃ template calls, Template.parse source = .ok template ∧
          e.Nesting (fun invoke => e.renderTemplate invoke template arguments e.config.trust s)
            calls) ∧
    ∀ (α : Type) (y : Caller σ Outcome → Option α) (calls : Nat → Call σ), e.Nesting y calls →
      ∃ f, e.Registered f ∧ f.IsPrompt ∧ ∀ n, ∃ m, n < m ∧ (calls m).function = f := by
  refine ⟨fun o streamed service settings arguments history s => ⟨?_, ?_⟩, ends_render_iff,
    fun α y calls h => h.recurs⟩
  · exact ends_iff_not_nesting (asking_converse o streamed service settings arguments history) s
  · exact fun depth result s' events h => length_requests_le h

/-! ## §5. Prompts that nest in themselves. -/

theorem attempts_none {body : Caller σ FunctionResult} {f : Function σ} {arguments : Arguments}
    {s : σ} (h : body f arguments s = none) (repeats : Nat) :
    attempts [] body f repeats arguments s = none := by
  have hattempt : attempt [] body f arguments s = none := by
    unfold attempt
    have hbefore : askBefore f.descriptor ([] : List (HookId × Hook σ)) { arguments } s
        = some ((.proceed, { arguments }), s, []) := rfl
    dsimp only
    rw [Exec.bind_of_some hbefore, Exec.behind_nil]
    exact Exec.bind_of_none (Exec.inside_of_none h)
  cases repeats <;> exact Exec.bind_of_none hattempt

/-- A template that invokes a prompt. -/
def againTemplate : Template :=
  ⟨"\x7b\x7bp.again\x7d\x7d", [⟨.invocation ⟨⟨⟨some "p", "again"⟩, ⟨2, 9⟩⟩, [], .empty⟩, ⟨0, 11⟩⟩]⟩

/-- The prompt with that template, which invokes itself. -/
def again : Function Unit :=
  Function.inCollection "p" (.ofTemplate "again" againTemplate)

/-- A prompt whose template invokes nothing. -/
def ask : Function Unit :=
  Function.inCollection "p" (.ofTemplate "ask" ⟨"go", [⟨.text "go", ⟨0, 2⟩⟩]⟩)

/-- A service whose model requests that prompt in every reply. -/
def insistent : Service Unit :=
  .ofComplete "insistent" fun _ s => (.ok [.toolRequests [⟨"call", "p-ask", ""⟩]], s)

/-- An engine with both prompts, that service and a budget of two. -/
def relapse : Engine Unit :=
  { registry := ((Registry.empty.register "p" again).2.register "p" ask).2
    services := Table.empty.insert "insistent" insistent
    config := { maxAttempts := 2 } }

section Relapse

variable {invoke : Caller Unit Outcome}

theorem renderTemplate_again (h : invoke again {} () = none) :
    relapse.renderTemplate invoke againTemplate {} {} () = none := by
  have hblock : relapse.renderInvocation invoke {} {} ⟨⟨⟨some "p", "again"⟩, ⟨2, 9⟩⟩, [], .empty⟩ ()
      = none := by
    show Exec.orFail (invoke again {}) _ () = none
    exact Exec.bind_of_none h
  exact Exec.bind_of_none hblock

theorem converse_insistent (h : invoke ask {} () = none) (history : History) :
    relapse.converse invoke relapse.config.conversation false insistent {} {} history ()
      = none := by
  have htool : relapse.resolveTool invoke {} ⟨"call", "p-ask", ""⟩ () = none := by
    rw [resolveTool_eq]
    show Exec.orFail (invoke ask {}) _ () = none
    exact Exec.bind_of_none h
  have heach : relapse.resolveEach invoke {} [⟨"call", "p-ask", ""⟩] () = none := by
    rw [resolveEach_cons]
    exact Exec.bind_of_none htool
  have hresolve : relapse.resolveTools invoke {} [⟨"call", "p-ask", ""⟩] () = none :=
    Exec.bind_of_none heach
  have hask : relapse.askFor false insistent {} history ()
      = some (.ok (.toolRequests [⟨"call", "p-ask", ""⟩]), (),
          [.request "insistent" history {} relapse.registry.descriptors]) := rfl
  show (relapse.askFor false insistent {} history >>= _) () = none
  rw [Exec.bind_of_some hask]
  show Exec.behind _ ((relapse.resolveTools invoke {} [⟨"call", "p-ask", ""⟩] >>= _) ()) = none
  rw [Exec.bind_of_none hresolve]
  rfl

theorem caller_again (depth : Nat) : relapse.caller depth again {} () = none := by
  induction depth with
  | zero => rfl
  | succ depth ih =>
      refine Exec.inside_of_none (attempts_none ?_ _)
      exact Exec.bind_of_none (renderTemplate_again ih)

theorem caller_ask (depth : Nat) : relapse.caller depth ask {} () = none := by
  induction depth with
  | zero => rfl
  | succ depth ih =>
      refine Exec.inside_of_none (attempts_none ?_ _)
      have hrender : relapse.renderTemplate (relapse.caller depth)
          ⟨"go", [⟨.text "go", ⟨0, 2⟩⟩]⟩ {} {} () = some (.ok "go", (), []) := rfl
      show Exec.orFail (relapse.renderTemplate (relapse.caller depth) _ {} {}) _ () = none
      unfold Exec.orFail
      rw [Exec.bind_of_some hrender]
      show Exec.behind [] ((relapse.converse (relapse.caller depth) relapse.config.conversation
        false insistent {} {} [.user "go"] >>= _) ()) = none
      rw [Exec.bind_of_none (converse_insistent ih _)]
      rfl

theorem render_again (depth : Nat) :
    relapse.render (relapse.caller depth) "\x7b\x7bp.again\x7d\x7d" {} () = none := by
  have hparse : Template.parse "\x7b\x7bp.again\x7d\x7d" = .ok againTemplate := by cbv
  unfold render
  rw [hparse]
  exact renderTemplate_again (caller_again depth)

end Relapse

/-- **Neither templates nor conversations end** if prompts nest in themselves: one template invokes
the prompt that it is of, and a model requests in every reply a prompt that makes it reply again. -/
theorem relapse_never_ends :
    (∀ depth, relapse.render (relapse.caller depth) "\x7b\x7bp.again\x7d\x7d" {} () = none) ∧
    ∀ depth, relapse.converse (relapse.caller depth) relapse.config.conversation false insistent
      {} {} [.user "go"] () = none :=
  ⟨render_again, fun depth => converse_insistent (caller_ask depth) _⟩

/-- A conversation that ends has no endless nesting in it and keeps to its budget; the template
that invokes itself has one, in which some prompt comes again and again. -/
theorem ends_unless_nesting_again :
    (¬ ∃ calls, clock.Nesting (fun invoke =>
      clock.converse invoke ⟨true, 5⟩ true countdown {} {} [.user "now"] 2) calls) ∧
    (∃ run s' events, clock.converse (clock.caller 1) ⟨true, 5⟩ true countdown {} {} [.user "now"] 2
      = some (run, s', events) ∧ (requests events).length ≤ 5) ∧
    ∃ template calls, Template.parse "\x7b\x7bp.again\x7d\x7d" = .ok template ∧
      relapse.Nesting (fun invoke => relapse.renderTemplate invoke template {} {} ()) calls ∧
      ∃ f, relapse.Registered f ∧ f.IsPrompt ∧ ∀ n, ∃ m, n < m ∧ (calls m).function = f := by
  obtain ⟨hends, hbudget⟩ :=
    (ends_unless_nesting clock).1 ⟨true, 5⟩ true countdown {} {} [.user "now"] 2
  have hreturns : (clock.converse (clock.caller 1) ⟨true, 5⟩ true countdown {} {} [.user "now"]
      2).isSome = true := by
    decide +kernel
  obtain ⟨⟨run, s', events⟩, hrun⟩ := Option.isSome_iff_exists.1 hreturns
  refine ⟨hends.1 ⟨1, (run, s', events), fun deeper hle => ?_⟩,
    ⟨run, s', events, hrun, hbudget 1 run s' events hrun⟩, ?_⟩
  · exact (asking_converse (e := clock) _ _ _ _ _ _ 2).mono (answersAlike_caller hle) hrun
  · obtain ⟨-, hrender, hrecurs⟩ := ends_unless_nesting relapse
    -- The render comes to no end at any depth, so its calls nest for ever.
    have hnever : ¬ Ends (fun depth =>
        relapse.render (relapse.caller depth) "\x7b\x7bp.again\x7d\x7d" {}) () := by
      rintro ⟨depth, result, hend⟩
      have hnone : relapse.render (relapse.caller depth) "\x7b\x7bp.again\x7d\x7d" {} ()
          = some result :=
        hend depth (Nat.le_refl depth)
      rw [render_again] at hnone
      contradiction
    obtain ⟨template, calls, hparse, hnesting⟩ :=
      not_not.1 (mt (hrender "\x7b\x7bp.again\x7d\x7d" {} ()).2 hnever)
    exact ⟨template, calls, hparse, hnesting, hrecurs _ _ calls hnesting⟩

end Engine

end PromptEngine
