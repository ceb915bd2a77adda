/-
  PromptEngine.Proofs.Engine.RenderTrust — trust decides how a text is written, and nothing else.

  Whom a render trusts is asked only where data is put into the text.  Two renders of a template
  that differ in trust therefore keep step, with equal states and equal traces (`renderBlock_inStep`
  for one block, `renderBlocks_inStep` for all of them): they invoke the same functions with the
  same arguments, ask the same hooks and services, and stop at the same block or not at all.  What
  they have gathered is the same row of texts, and each text of a variable or a function is then
  written as it is or escaped.

  Main result: `renderTemplate_trust`.
-/
import PromptEngine.Proofs.Engine.Simulation

namespace PromptEngine

variable {σ : Type}

/-! ## §1. How data is written. -/

/-- A variable's data as it is written under a policy of trust. -/
def Trust.shown (trust : Trust) (name data : String) : String :=
  if trust.trustsVariable name then data else Markup.escapeString data

/-- What a block writes under a policy of trust, if it stands for the given data.  Texts and values
are the template's own words. -/
def Block.shown (trust : Trust) (block : Block) (data : String) : String :=
  match block with
  | .text t => t
  | .value v => v.value
  | .variable name => trust.shown name data
  | .namedArgument argument =>
    match argument.operand.node with
    | .value v => v.value
    | .variable name => trust.shown name data
  | .invocation _ => if trust.trustsOutput then data else Markup.escapeString data

/-- What a row of blocks writes, with the data that each of them stands for. -/
def shownAll (trust : Trust) : List (Spanned Block) → List String → String
  | block :: blocks, data :: rest => block.node.shown trust data ++ shownAll trust blocks rest
  | _, _ => ""

/-! ## §2. Two renders keep step. -/

namespace Exec

variable {α β : Type}

/-- Whatever a computation does, it does it again from the same state. -/
theorem steady_same (x : Exec σ α) : Steady Eq .same x := by
  rintro s _ rfl
  cases x s with
  | none => exact .none
  | some run => exact .some ⟨rfl, rfl, rfl⟩

/-- Of two computations that keep step with equal states and traces, the second ends as the first
does, but for its value. -/
theorem InStep.run_same {V : α → β → Prop} {x : Exec σ α} {y : Exec σ β}
    (h : InStep Eq .same V x y) {s s' : σ} {a : α} {events : List Event}
    (hx : x s = some (a, s', events)) : ∃ b, y s = some (b, s', events) ∧ V a b := by
  obtain ⟨hnone, -⟩ | ⟨a₁, s₁, events₁, b, t₁, events₂, hx', hy, hvalues, hstates, htraces⟩ :=
    h.ends (rfl : s = s)
  · rw [hx] at hnone
    contradiction
  · obtain ⟨rfl, rfl, rfl⟩ := end_eq_iff.mp (hx.symm.trans hx')
    subst hstates
    refine ⟨b, ?_, hvalues⟩
    rw [hy]
    exact end_eq_iff.mpr ⟨rfl, rfl, htraces⟩

end Exec

namespace Engine

variable (e : Engine σ) (invoke : Caller σ Outcome) (arguments : Arguments) (trust trust' : Trust)
  (raw : Spanned Block → String)

/-- Outcomes for one block: the same failure, or the same data in two ways of writing. -/
def SamePart (trust trust' : Trust) (block : Block) (outcome outcome' : Except EngineError String) :
    Prop :=
  ∃ came : Except EngineError String,
    outcome = came.map (block.shown trust) ∧ outcome' = came.map (block.shown trust')

/-- Outcomes for a row of blocks: the same failure, or the same data for each of the blocks. -/
inductive SameParts (trust trust' : Trust) (blocks : List (Spanned Block)) :
    Except EngineError String → Except EngineError String → Prop where
  | failed (error : EngineError) : SameParts trust trust' blocks (.error error) (.error error)
  | shown (data : List String) : data.length = blocks.length →
      SameParts trust trust' blocks (.ok (shownAll trust blocks data))
        (.ok (shownAll trust' blocks data))

/-- A variable without a value stands for the empty text, which has nothing to escape. -/
theorem renderVariable_eq_shown (name : String) :
    renderVariable arguments trust name
      = (Block.variable name).shown trust ((arguments.getText? name).getD "") := by
  have hempty : Markup.escapeString "" = "" := rfl
  unfold renderVariable
  cases arguments.getText? name with
  | some text => rfl
  | none =>
      show "" = if trust.trustsVariable name then "" else Markup.escapeString ""
      rw [hempty, ite_self]

/-- An operand of an argument is written as a value or as a variable. -/
theorem renderOperand_eq_shown (argument : NamedOperand) :
    ∃ data, ∀ trust, renderOperand arguments trust argument.operand.node
      = (Block.namedArgument argument).shown trust data := by
  obtain ⟨name, ⟨operand, span⟩⟩ := argument
  cases operand with
  | value v => exact ⟨"", fun _ => rfl⟩
  | «variable» name => exact ⟨_, fun trust => renderVariable_eq_shown arguments trust name⟩

/-- **One block.**  It does the same under either policy and stands for the same data. -/
theorem renderBlock_inStep (block : Block) :
    (e.renderBlock invoke arguments trust block).InStep Eq .same (SamePart trust trust' block)
      (e.renderBlock invoke arguments trust' block) := by
  cases block with
  | text t => exact Exec.inStep_pure ⟨.ok t, rfl, rfl⟩
  | value v => exact Exec.inStep_pure ⟨.ok v.value, rfl, rfl⟩
  | «variable» name =>
      refine Exec.inStep_pure ⟨.ok ((arguments.getText? name).getD ""), ?_, ?_⟩
      · exact congrArg Except.ok (renderVariable_eq_shown arguments trust name)
      · exact congrArg Except.ok (renderVariable_eq_shown arguments trust' name)
  | namedArgument argument =>
      obtain ⟨data, hdata⟩ := renderOperand_eq_shown arguments argument
      exact Exec.inStep_pure
        ⟨.ok data, congrArg Except.ok (hdata trust), congrArg Except.ok (hdata trust')⟩
  | invocation call =>
      show (e.renderInvocation invoke arguments trust call).InStep Eq .same _
        (e.renderInvocation invoke arguments trust' call)
      unfold renderInvocation
      -- Neither the function nor its arguments depend on trust, so the invocation is the same one.
      cases e.prepareCall call arguments with
      | error error => exact Exec.inStep_pure ⟨.error error, rfl, rfl⟩
      | ok prepared =>
          refine Exec.InStep.bind (Exec.steady_same (invoke prepared.1 prepared.2)) ?_
          rintro outcome _ rfl
          cases outcome with
          | error error => exact Exec.inStep_pure ⟨.error error, rfl, rfl⟩
          | ok outcome => exact Exec.inStep_pure ⟨.ok outcome.text, rfl, rfl⟩

/-- **All blocks.**  They do the same under either policy and stand for the same data. -/
theorem renderBlocks_inStep (blocks : List (Spanned Block)) :
    (e.renderBlocks invoke arguments trust raw blocks).InStep Eq .same
      (SameParts trust trust' blocks) (e.renderBlocks invoke arguments trust' raw blocks) := by
  induction blocks with
  | nil => exact Exec.inStep_pure (.shown [] rfl)
  | cons block blocks ih =>
      refine (renderBlock_inStep e invoke arguments trust trust' block.node).bind ?_
      rintro _ _ ⟨came, rfl, rfl⟩
      cases came with
      | error error => exact Exec.inStep_pure (.failed (.render (raw block) error))
      | ok data =>
          refine ih.bind ?_
          intro outcome outcome' hparts
          cases hparts with
          | failed error => exact Exec.inStep_pure (.failed error)
          | shown rest hlength =>
              refine Exec.inStep_pure (.shown (data :: rest) ?_)
              rw [List.length_cons, List.length_cons, hlength]

/-! ## §3. Where a render stops. -/

/-- A render stops at a block: what stands in front of it is rendered, and the block fails. -/
def StopsAt (front : List (Spanned Block)) (block : Spanned Block) (s : σ) (error : EngineError)
    (s' : σ) (events : List Event) : Prop :=
  ∃ text s₁ first rest cause,
    e.renderBlocks invoke arguments trust raw front s = some (.ok text, s₁, first) ∧
    e.renderBlock invoke arguments trust block.node s₁ = some (.error cause, s', rest) ∧
    events = first ++ rest ∧ error = .render (raw block) cause

variable {e invoke arguments trust trust' raw}

/-- A render that fails stops at one of its blocks. -/
theorem stopsAt_of_failed {blocks : List (Spanned Block)} :
    ∀ {s s' : σ} {error : EngineError} {events : List Event},
      e.renderBlocks invoke arguments trust raw blocks s = some (.error error, s', events) →
      ∃ front block back, blocks = front ++ block :: back ∧
        e.StopsAt invoke arguments trust raw front block s error s' events := by
  induction blocks with
  | nil =>
      intro s s' error events h
      obtain ⟨hok, -, -⟩ := Exec.pure_eq_some_iff.mp h
      contradiction
  | cons block blocks ih =>
      intro s s' error events h
      obtain ⟨outcome, s₁, first, rest, hblock, h, rfl⟩ := Exec.bind_eq_some_iff.mp h
      cases outcome with
      | error cause =>
          obtain ⟨herror, rfl, rfl⟩ := Exec.pure_eq_some_iff.mp h
          refine ⟨[], block, blocks, rfl, "", s, [], first, cause, rfl, hblock, ?_, ?_⟩
          · rw [List.append_nil, List.nil_append]
          · injection herror
      | ok text =>
          obtain ⟨error', hmore, herror⟩ | ⟨more, s₂, second, last, -, hlast, -⟩ :=
            Exec.orFail_eq_some_iff.mp h
          · -- The block is one of those that are rendered in front of where the render stops.
            injection herror with herror
            subst herror
            obtain ⟨front, stop, back, rfl, more, s₂, second, last, cause, hfront, hstop, rfl,
              herror⟩ := ih hmore
            refine ⟨block :: front, stop, back, rfl, text ++ more, s₂, first ++ second, last, cause,
              ?_, hstop, (List.append_assoc ..).symm, herror⟩
            refine Exec.bind_eq_some_iff.mpr ⟨.ok text, s₁, first, second, hblock, ?_, rfl⟩
            refine Exec.orFail_eq_some_iff.mpr (Or.inr ⟨more, s₂, second, [], hfront, rfl, ?_⟩)
            exact (List.append_nil second).symm
          · obtain ⟨hok, -, -⟩ := Exec.pure_eq_some_iff.mp hlast
            contradiction

/-- Where a render stops does not depend on trust. -/
theorem StopsAt.under {front : List (Spanned Block)} {block : Spanned Block} {s s' : σ}
    {error : EngineError} {events : List Event}
    (h : e.StopsAt invoke arguments trust raw front block s error s' events) (trust' : Trust) :
    e.StopsAt invoke arguments trust' raw front block s error s' events := by
  obtain ⟨text, s₁, first, rest, cause, hfront, hblock, hevents, herror⟩ := h
  obtain ⟨outcome, hfront', hparts⟩ :=
    (renderBlocks_inStep e invoke arguments trust trust' raw front).run_same hfront
  obtain ⟨outcome', hblock', came, hcame, houtcome'⟩ :=
    (renderBlock_inStep e invoke arguments trust trust' block.node).run_same hblock
  cases hparts with
  | shown data hlength =>
      -- The block failed, so there is no data that could be written in two ways.
      cases came with
      | ok data => contradiction
      | error cause' =>
          injection hcame with hcame
          subst hcame houtcome'
          exact ⟨_, s₁, first, rest, cause, hfront', hblock', hevents, herror⟩

/-! ## §4. Two renders of a template. -/

/-- What two renders of a template from the same state have in common that differ in trust.  Either
both fail with the same error at the same block, or both give a text, with the same data for each
block.  In both cases they leave the same state and the same trace. -/
inductive SameUpToTrust (e : Engine σ) (invoke : Caller σ Outcome) (arguments : Arguments)
    (trust trust' : Trust) (template : Template) (s : σ) :
    Except EngineError String × σ × List Event → Except EngineError String × σ × List Event →
      Prop where
  | failed {front back : List (Spanned Block)} {block : Spanned Block} {error : EngineError}
      {s' : σ} {events : List Event} :
      template.blocks = front ++ block :: back →
      e.StopsAt invoke arguments trust template.raw front block s error s' events →
      e.StopsAt invoke arguments trust' template.raw front block s error s' events →
      SameUpToTrust e invoke arguments trust trust' template s (.error error, s', events)
        (.error error, s', events)
  | rendered {data : List String} {s' : σ} {events : List Event} :
      data.length = template.blocks.length →
      SameUpToTrust e invoke arguments trust trust' template s
        (.ok (shownAll trust template.blocks data), s', events)
        (.ok (shownAll trust' template.blocks data), s', events)

/-- **Trust decides how a text is written, and nothing else.**  Let a template be rendered twice
from the same state, under any two policies of trust, and whatever the functions it invokes do.
Then both renders come to an end or neither does; their traces are equal, with the same
invocations in the same order, each with the same arguments; they leave the same state; and both
fail with the same error at the same block, or both succeed.  If they do, there is one row of
data, one text for each block, that both have written: each text of a variable or a function as
it is where the policy trusts it, and escaped where it does not. -/
theorem renderTemplate_trust (e : Engine σ) (invoke : Caller σ Outcome) (template : Template)
    (arguments : Arguments) (trust trust' : Trust) (s : σ) :
    Option.Rel (SameUpToTrust e invoke arguments trust trust' template s)
      (e.renderTemplate invoke template arguments trust s)
      (e.renderTemplate invoke template arguments trust' s) := by
  have hblocks := renderBlocks_inStep e invoke arguments trust trust' template.raw template.blocks
  unfold renderTemplate
  obtain ⟨hl, hr⟩ |
    ⟨outcome, s', events, outcome', t', events', hl, hr, hparts, hstates, htraces⟩ :=
      hblocks.ends (rfl : s = s)
  · rw [hl, hr]
    exact .none
  · have htraces : events = events' := htraces
    subst hstates htraces
    rw [hl, hr]
    cases hparts with
    | shown data hlength => exact .some (.rendered hlength)
    | failed error =>
        obtain ⟨front, block, back, hsplit, hstops⟩ := stopsAt_of_failed hl
        exact .some (.failed hsplit hstops (hstops.under trust'))

/-- A template with a variable and a function that is given it. -/
def report : Template :=
  { source := ""
    blocks := [⟨.variable "name", ⟨0, 0⟩⟩, ⟨.text ": ", ⟨0, 0⟩⟩,
      ⟨.invocation { function := ⟨⟨none, "repeat"⟩, ⟨0, 0⟩⟩
                     positional := [⟨.variable "name", ⟨0, 0⟩⟩], named := .empty }, ⟨0, 0⟩⟩] }

/-- An engine with a function that gives back what it is given and counts how often. -/
def echo : Engine Nat :=
  { registry := (Registry.empty.register "cave"
      { descriptor := { name := "repeat", parameters := [{ name := "word" }] }
        body := .native fun arguments n =>
          (.ok (.string ((arguments.getText? "word").getD "")), n + 1) }).2 }

/-- What a render comes to, and the state that it leaves. -/
def echoed (trust : Trust) : Option (Option String × Nat) :=
  (echo.renderTemplate (echo.caller 1) report (.ofList [("name", .string "<Ada>")]) trust 0).map
    fun run => (run.1.toOption, run.2.1)

/-- A render that trusts the variable, and one that trusts everything.  In both the function is
called once, with the value as it is, and what it gives back is escaped in the first text and raw
in the second. -/
theorem renderTemplate_trust_echo :
    ∃ (data : List String) (events : List Event),
      echo.renderTemplate (echo.caller 1) report (.ofList [("name", .string "<Ada>")])
          { trusted := ["name"] } 0
        = some (.ok (shownAll { trusted := ["name"] } report.blocks data), 1, events) ∧
      echo.renderTemplate (echo.caller 1) report (.ofList [("name", .string "<Ada>")])
          { everything := true } 0
        = some (.ok (shownAll { everything := true } report.blocks data), 1, events) ∧
      shownAll { trusted := ["name"] } report.blocks data = "<Ada>: &lt;Ada&gt;" ∧
      shownAll { everything := true } report.blocks data = "<Ada>: <Ada>" := by
  have hescaped : echoed { trusted := ["name"] } = some (some "<Ada>: &lt;Ada&gt;", 1) := by
    decide +kernel
  have hraw : echoed { everything := true } = some (some "<Ada>: <Ada>", 1) := by
    decide +kernel
  obtain ⟨run, hrun, hresult⟩ := Option.map_eq_some_iff.mp hescaped
  obtain ⟨run', hrun', hresult'⟩ := Option.map_eq_some_iff.mp hraw
  have hsame := renderTemplate_trust echo (echo.caller 1) report
    (.ofList [("name", .string "<Ada>")]) { trusted := ["name"] } { everything := true } 0
  rw [hrun, hrun'] at hsame
  cases hsame with
  | some hruns =>
      cases hruns with
      | failed =>
          obtain ⟨hnone, -⟩ := Prod.mk.inj hresult
          contradiction
      | @rendered data s' events hlength =>
          obtain ⟨htext, hstate⟩ := Prod.mk.inj hresult
          obtain ⟨htext', -⟩ := Prod.mk.inj hresult'
          obtain rfl : s' = 1 := hstate
          exact ⟨data, events, hrun, hrun', Option.some.inj htext, Option.some.inj htext'⟩

end Engine

end PromptEngine
