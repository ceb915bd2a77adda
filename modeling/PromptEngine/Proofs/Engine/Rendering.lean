/-
  PromptEngine.Proofs.Engine.Rendering — a render is one pass over the template.

  The blocks of a template are rendered in turn, each with the state that those in front of it left.
  Which calls that makes is settled beforehand: a block makes at most one, and which one depends on
  the block, the registry and the arguments of the render (`blockCall?`), not on any text that was
  put out.  So nothing that data says is read as a template.  A render that fails stops at an
  invocation, and what comes behind that is not touched.

  Main result: `renderTemplate_inTurn`.
-/
import PromptEngine.Proofs.Engine.InTurn
import PromptEngine.Proofs.Engine.RenderTrust

namespace PromptEngine.Engine

variable {σ : Type} {e : Engine σ} {depth : Nat} {arguments : Arguments} {trust : Trust}
  {s s' : σ} {events : List Event}

/-! ## §1. One block. -/

/-- The call that a block makes, if it makes one: its function has to be found, and its arguments
have to fit. -/
def blockCall? (e : Engine σ) (arguments : Arguments) (block : Spanned Block) :
    Option (Function σ × Arguments) :=
  match block.node with
  | .invocation call => (e.prepareCall call arguments).toOption
  | _ => none

/-- What an invocation can come to: it is not made, since there is no such function or its
arguments do not fit, or it is made, and its outcome is put out. -/
theorem renderInvocation_cases {invoke : Caller σ Outcome} {call : Invocation}
    {outcome : Except EngineError String}
    (h : e.renderInvocation invoke arguments trust call s = some (outcome, s', events)) :
    (∃ cause, e.prepareCall call arguments = .error cause ∧ outcome = .error cause ∧ s' = s ∧
        events = []) ∨
      ∃ f bound result, e.prepareCall call arguments = .ok (f, bound) ∧
        invoke f bound s = some (result, s', events) ∧
        outcome = result.map fun o => substitute trust.trustsOutput o.text := by
  unfold renderInvocation at h
  cases hprepare : e.prepareCall call arguments with
  | error cause =>
      rw [hprepare] at h
      obtain ⟨rfl, rfl, rfl⟩ := Exec.pure_eq_some_iff.mp h
      exact Or.inl ⟨cause, rfl, rfl, rfl, rfl⟩
  | ok prepared =>
      obtain ⟨f, bound⟩ := prepared
      rw [hprepare] at h
      obtain ⟨cause, hcall, rfl⟩ | ⟨o, s₁, first, rest, hcall, hrest, rfl⟩ :=
        Exec.orFail_eq_some_iff.mp h
      · exact Or.inr ⟨f, bound, .error cause, rfl, hcall, rfl⟩
      · obtain ⟨rfl, rfl, rfl⟩ := Exec.pure_eq_some_iff.mp hrest
        rw [List.append_nil]
        exact Or.inr ⟨f, bound, .ok o, rfl, hcall, rfl⟩

/-- A block that is no invocation is put out at once. -/
theorem renderBlock_eq_pure {block : Block} (h : ∀ call, block ≠ .invocation call)
    (invoke : Caller σ Outcome) :
    ∃ text, e.renderBlock invoke arguments trust block = pure (.ok text) := by
  cases block with
  | text t => exact ⟨t, rfl⟩
  | value v => exact ⟨v.value, rfl⟩
  | «variable» name => exact ⟨_, rfl⟩
  | namedArgument argument => exact ⟨_, rfl⟩
  | invocation call => exact absurd rfl (h call)

theorem blockCall?_eq_none {block : Spanned Block} (h : ∀ call, block.node ≠ .invocation call) :
    e.blockCall? arguments block = none := by
  unfold blockCall?
  split
  · next call hcall => exact absurd hcall (h call)
  · rfl

theorem blockCall?_invocation {block : Spanned Block} {call : Invocation}
    (h : block.node = .invocation call) :
    e.blockCall? arguments block = (e.prepareCall call arguments).toOption := by
  unfold blockCall?
  rw [h]

/-- Rendering a block makes its call and no other. -/
theorem calls_renderBlock {block : Spanned Block} {outcome : Except EngineError String}
    (h : e.renderBlock (e.caller depth) arguments trust block.node s
      = some (outcome, s', events)) :
    List.Forall₂ Event.Calls events (e.blockCall? arguments block).toList := by
  by_cases hinvocation : ∃ call, block.node = .invocation call
  · obtain ⟨call, hnode⟩ := hinvocation
    rw [hnode] at h
    rw [blockCall?_invocation hnode]
    obtain ⟨cause, hprepare, -, -, rfl⟩ | ⟨f, bound, result, hprepare, hcall, -⟩ :=
      renderInvocation_cases h
    · rw [hprepare]
      exact .nil
    · rw [hprepare]
      exact calls_caller hcall
  · have hother := not_exists.mp hinvocation
    obtain ⟨text, htext⟩ := renderBlock_eq_pure hother (e.caller depth)
    rw [htext] at h
    obtain ⟨-, -, rfl⟩ := Exec.pure_eq_some_iff.mp h
    rw [blockCall?_eq_none hother]
    exact .nil

/-- An invocation that is put out could be made. -/
theorem prepared_of_shown {invoke : Caller σ Outcome} {call : Invocation} {text : String}
    (h : e.renderInvocation invoke arguments trust call s = some (.ok text, s', events)) :
    (e.prepareCall call arguments).toOption.isSome := by
  obtain ⟨cause, -, hok, -, -⟩ | ⟨f, bound, result, hprepare, -, -⟩ := renderInvocation_cases h
  · contradiction
  · rw [hprepare]
    rfl

/-- Only an invocation can fail. -/
theorem invocation_of_failed {invoke : Caller σ Outcome} {block : Block} {cause : EngineError}
    (h : e.renderBlock invoke arguments trust block s = some (.error cause, s', events)) :
    ∃ call, block = .invocation call := by
  by_contra hother
  obtain ⟨text, htext⟩ := renderBlock_eq_pure (not_exists.mp hother) invoke
  rw [htext] at h
  obtain ⟨hok, -, -⟩ := Exec.pure_eq_some_iff.mp h
  contradiction

/-! ## §2. All blocks. -/

/-- Of blocks that were all put out, each invocation made its call. -/
theorem blockCall?_of_shown {invoke : Caller σ Outcome} {blocks : List (Spanned Block)}
    {texts : List String}
    (h : Exec.InTurn (fun block => e.renderBlock invoke arguments trust block.node) blocks s
      (texts.map .ok) s' events) :
    ∀ block ∈ blocks, ∀ call, block.node = .invocation call →
      (e.blockCall? arguments block).isSome := by
  intro block hblock call hcall
  obtain ⟨outcome, houtcome, s₁, s₂, own, hrun⟩ := h.ran block hblock
  obtain ⟨text, -, rfl⟩ := List.mem_map.mp houtcome
  rw [hcall] at hrun
  rw [blockCall?_invocation hcall]
  exact prepared_of_shown hrun

/-- Blocks are rendered in turn, and their texts are put together. -/
theorem inTurn_renderBlocks {invoke : Caller σ Outcome} {raw : Spanned Block → String}
    {blocks : List (Spanned Block)} :
    ∀ {out : String} {s : σ} {events : List Event},
      e.renderBlocks invoke arguments trust raw blocks s = some (.ok out, s', events) →
      ∃ texts : List String,
        Exec.InTurn (fun block => e.renderBlock invoke arguments trust block.node) blocks s
          (texts.map .ok) s' events ∧
        out = String.join texts := by
  induction blocks with
  | nil =>
      intro out s events h
      obtain ⟨hout, rfl, rfl⟩ := Exec.pure_eq_some_iff.mp h
      injection hout with hout
      exact ⟨[], .nil, hout⟩
  | cons block blocks ih =>
      intro out s events h
      obtain ⟨outcome, s₁, first, rest, hblock, h, rfl⟩ := Exec.bind_eq_some_iff.mp h
      cases outcome with
      | error cause =>
          obtain ⟨hout, -, -⟩ := Exec.pure_eq_some_iff.mp h
          contradiction
      | ok text =>
          obtain ⟨error, -, hout⟩ | ⟨more, s₂, second, last, hmore, hlast, rfl⟩ :=
            Exec.orFail_eq_some_iff.mp h
          · contradiction
          · obtain ⟨hout, rfl, rfl⟩ := Exec.pure_eq_some_iff.mp hlast
            injection hout with hout
            obtain ⟨texts, hturn, rfl⟩ := ih hmore
            refine ⟨text :: texts, ?_, ?_⟩
            · rw [List.append_nil]
              exact .cons hblock hturn
            · rw [hout, String.join_cons]

/-- **A render is one pass over the template, in order.**  If the calls of registered functions
return, a render returns.  A render that gives a text has rendered each block, in turn; the text is
theirs put together, and the trace is one call for each invocation.  A render that fails has
rendered the blocks in front of an invocation and then this one, which failed, because there is no
such function, or its arguments do not fit, or its call failed; the error names the block and the
cause, and the trace is one call for each invocation in front, and one for this one if it could be
made.  Which calls these are does not depend on what any of them came to. -/
theorem renderTemplate_inTurn (e : Engine σ) (depth : Nat) (template : Template)
    (arguments : Arguments) (trust : Trust) (s : σ) :
    ((∀ f ∈ e.registry.functions, ∀ bound s₁, (e.caller depth f bound s₁).isSome) →
      (e.renderTemplate (e.caller depth) template arguments trust s).isSome) ∧
    ∀ outcome s' events,
      e.renderTemplate (e.caller depth) template arguments trust s
        = some (outcome, s', events) →
      (∃ texts : List String,
        Exec.InTurn (fun block => e.renderBlock (e.caller depth) arguments trust block.node)
          template.blocks s (texts.map .ok) s' events ∧
        (∀ block ∈ template.blocks, ∀ call, block.node = .invocation call →
          (e.blockCall? arguments block).isSome) ∧
        List.Forall₂ Event.Calls events (template.blocks.filterMap (e.blockCall? arguments)) ∧
        outcome = .ok (String.join texts)) ∨
      ∃ (front : List (Spanned Block)) (block : Spanned Block) (back : List (Spanned Block))
          (call : Invocation) (texts : List String) (cause : EngineError),
        template.blocks = front ++ block :: back ∧ block.node = .invocation call ∧
        Exec.InTurn (fun block => e.renderBlock (e.caller depth) arguments trust block.node)
          (front ++ [block]) s (texts.map .ok ++ [.error cause]) s' events ∧
        (∀ block ∈ front, ∀ call, block.node = .invocation call →
          (e.blockCall? arguments block).isSome) ∧
        List.Forall₂ Event.Calls events
          ((front ++ [block]).filterMap (e.blockCall? arguments)) ∧
        (e.prepareCall call arguments = .error cause ∨
          ∃ f bound s₁ rest, e.prepareCall call arguments = .ok (f, bound) ∧
            e.caller depth f bound s₁ = some (.error cause, s', rest)) ∧
        outcome = .error (.render (template.raw block) cause) := by
  refine ⟨(asking_renderTemplate template arguments trust s).returns, fun outcome s' events h => ?_⟩
  cases outcome with
  | ok out =>
      obtain ⟨texts, hturn, rfl⟩ := inTurn_renderBlocks h
      exact Or.inl ⟨texts, hturn, blockCall?_of_shown hturn,
        hturn.calls fun _ _ _ _ _ => calls_renderBlock, rfl⟩
  | error error =>
      obtain ⟨front, block, back, hsplit, text, s₁, first, rest, cause, hfront, hblock, rfl, rfl⟩ :=
        stopsAt_of_failed h
      obtain ⟨texts, hturn, -⟩ := inTurn_renderBlocks hfront
      obtain ⟨call, hcall⟩ := invocation_of_failed hblock
      -- The block that failed was rendered behind those in front of it, and it was the last one.
      have hstop : Exec.InTurn
          (fun block => e.renderBlock (e.caller depth) arguments trust block.node)
          (front ++ [block]) s (texts.map .ok ++ [.error cause]) s' (first ++ (rest ++ [])) :=
        hturn.append (.cons hblock .nil)
      rw [List.append_nil] at hstop
      refine Or.inr ⟨front, block, back, call, texts, cause, hsplit, hcall, hstop,
        blockCall?_of_shown hturn, hstop.calls fun _ _ _ _ _ => calls_renderBlock, ?_, rfl⟩
      rw [hcall] at hblock
      obtain ⟨_, hprepare, herror, -⟩ | ⟨f, bound, result, hprepare, hmade, herror⟩ :=
        renderInvocation_cases hblock
      · injection herror with herror
        exact Or.inl (herror ▸ hprepare)
      · cases result with
        | ok outcome => contradiction
        | error cause' =>
            injection herror with herror
            exact Or.inr ⟨f, bound, s₁, rest, hprepare, herror ▸ hmade⟩

/-- A function that counts how often it was called and says something that looks like a call. -/
def stir : Function Nat :=
  { descriptor := { name := "stir", collection := "kitchen" }
    body := .native fun _ n => (.ok (.string "\x7b\x7bserve\x7d\x7d"), n + 1) }

/-- A function that does not get anywhere. -/
def taste : Function Nat :=
  .ofPure { name := "taste", collection := "kitchen" } fun _ => .error (.failed "too hot")

/-- A function that counts on another scale. -/
def serve : Function Nat :=
  { descriptor := { name := "serve", collection := "kitchen" }
    body := .native fun _ n => (.ok (.string "done"), n + 10) }

/-- An engine that has them all. -/
def kitchen : Engine Nat :=
  { registry := ⟨.ofList [("kitchen",
      { name := "kitchen"
        functions := .ofList [("stir", stir), ("taste", taste), ("serve", serve)] })]⟩ }

/-- A template that calls them one after the other. -/
def recipe : Template :=
  { source := "\x7b\x7bstir\x7d\x7d, \x7b\x7btaste\x7d\x7d, \x7b\x7bserve\x7d\x7d"
    blocks :=
      [⟨.invocation { function := ⟨⟨none, "stir"⟩, ⟨2, 6⟩⟩, positional := [], named := .empty },
          ⟨0, 8⟩⟩,
        ⟨.text ", ", ⟨8, 10⟩⟩,
        ⟨.invocation { function := ⟨⟨none, "taste"⟩, ⟨12, 17⟩⟩, positional := [], named := .empty },
          ⟨10, 19⟩⟩,
        ⟨.text ", ", ⟨19, 21⟩⟩,
        ⟨.invocation { function := ⟨⟨none, "serve"⟩, ⟨23, 28⟩⟩, positional := [], named := .empty },
          ⟨21, 30⟩⟩] }

/-- The second call fails; the third one is not made. -/
theorem renderTemplate_kitchen :
    ∃ events, kitchen.renderTemplate (kitchen.caller 1) recipe {} {} 0
      = some (.error (.render "\x7b\x7btaste\x7d\x7d" (.execution "kitchen.taste"
          (.failed "too hot"))), 1, events) :=
  ⟨_, rfl⟩

theorem renderTemplate_inTurn_kitchen :
    (kitchen.renderTemplate (kitchen.caller 1) recipe {} {} 0).isSome ∧
    ∃ events, kitchen.renderTemplate (kitchen.caller 1) recipe {} {} 0
        = some (.error (.render "\x7b\x7btaste\x7d\x7d" (.execution "kitchen.taste"
            (.failed "too hot"))), 1, events) ∧
      List.Forall₂ Event.Calls events [(stir, {}), (taste, {})] := by
  have hreturns : ∀ f ∈ kitchen.registry.functions, ∀ bound n,
      (kitchen.caller 1 f bound n).isSome := by
    have hfunctions : kitchen.registry.functions = [stir, taste, serve] := rfl
    rw [hfunctions]
    simp only [List.forall_mem_cons]
    exact ⟨fun _ _ => rfl, fun _ _ => rfl, fun _ _ => rfl, List.forall_mem_nil _⟩
  obtain ⟨events, hrun⟩ := renderTemplate_kitchen
  obtain ⟨hreturned, hends⟩ := renderTemplate_inTurn kitchen 1 recipe {} {} 0
  refine ⟨hreturned hreturns, events, hrun, ?_⟩
  obtain ⟨texts, -, -, -, hok⟩ | ⟨front, block, back, call, texts, cause, hsplit, -, -, -, hcalls,
    -, herror⟩ := hends _ 1 events hrun
  · contradiction
  · injection herror with herror
    injection herror with hraw hcause
    -- The block that failed is the only one that was read from this text.
    have hother : ∀ b ∈ recipe.blocks.take 2 ++ recipe.blocks.drop 3,
        recipe.raw b ≠ "\x7b\x7btaste\x7d\x7d" := by
      decide +kernel
    have hblocks : recipe.blocks = recipe.blocks.take 2 ++ recipe.blocks[2] ::
        recipe.blocks.drop 3 := rfl
    rw [hblocks, List.append_cons_inj_of_notMem
      (fun h => hother block (List.mem_append_left _ h) hraw.symm)
      (fun h => hother block (List.mem_append_right _ h) hraw.symm)] at hsplit
    obtain ⟨rfl, rfl, -⟩ := hsplit
    exact hcalls

end PromptEngine.Engine
