/-
  PromptEngine.Proofs.Engine.Beside — an engine in a state with room beside its own.

  An engine acts on states `σ`.  In a state `σ × τ` it finds its own state first and leaves the
  rest alone (`Engine.beside`): every function, service and hook is the same with more room around
  it.  Computations in the wider state are those in the narrow one (`Exec.beside`).  This passes
  through every way of building computations (§1) and through everything that an engine looks up
  (§3) and does (§4, §5).

  Main result: `caller_beside` — an invocation with room beside it comes to the same end, with the
  same trace, and the room is as it was.
-/
import PromptEngine.Proofs.Engine.Conversation
import PromptEngine.Proofs.Table

namespace PromptEngine

variable {σ τ α β ε : Type}

/-! ## §1. Computations. -/

/-- An action on the first of two states. -/
def onFirst (τ : Type) (act : σ → α × σ) : σ × τ → α × σ × τ := fun p =>
  ((act p.1).1, (act p.1).2, p.2)

namespace Exec

/-- A computation on the first of two states. -/
def beside (τ : Type) (x : Exec σ α) : Exec (σ × τ) α := fun p =>
  (x p.1).map fun r => (r.1, (r.2.1, p.2), r.2.2)

@[simp]
theorem beside_pure (a : α) : (pure a : Exec σ α).beside τ = pure a := rfl

@[simp]
theorem beside_emit (event : Event) : (emit event : Exec σ Unit).beside τ = emit event := rfl

@[simp]
theorem beside_act (f : σ → α × σ) : (act f).beside τ = act (onFirst τ f) := rfl

@[simp]
theorem beside_exhausted : (exhausted : Exec σ α).beside τ = exhausted := rfl

@[simp]
theorem beside_bind (x : Exec σ α) (f : α → Exec σ β) :
    (x >>= f).beside τ = x.beside τ >>= fun a => (f a).beside τ := by
  funext p
  show ((x >>= f) p.1).map _ = _
  cases hx : x p.1 with
  | none =>
      have hbeside : x.beside τ p = none := by rw [beside, hx]; rfl
      rw [bind_of_none hx, bind_of_none hbeside]
      rfl
  | some run =>
      obtain ⟨a, s, events⟩ := run
      have hbeside : x.beside τ p = some (a, (s, p.2), events) := by rw [beside, hx]; rfl
      rw [bind_of_some hx, bind_of_some hbeside]
      show (behind events (f a s)).map _ = behind events ((f a s).map _)
      cases f a s <;> rfl

@[simp]
theorem beside_inside (wrap : List Event → Event) (x : Exec σ α) :
    (inside wrap x).beside τ = inside wrap (x.beside τ) := by
  funext p
  unfold beside inside
  dsimp only
  cases x p.1 <;> rfl

@[simp]
theorem beside_orFail (x : Exec σ (Except ε α)) (f : α → Exec σ (Except ε β)) :
    (orFail x f).beside τ = orFail (x.beside τ) fun a => (f a).beside τ := by
  unfold orFail
  rw [beside_bind]
  refine bind_congr fun outcome => ?_
  cases outcome <;> rfl

end Exec

/-! ## §2. Engines. -/

/-- The same function in a wider state. -/
def Function.beside (τ : Type) (f : Function σ) : Function (σ × τ) :=
  { descriptor := f.descriptor
    body :=
      match f.body with
      | .native compute => .native fun arguments => onFirst τ (compute arguments)
      | .prompt template settings => .prompt template settings }

/-- The same service in a wider state. -/
def Service.beside (τ : Type) (service : Service σ) : Service (σ × τ) :=
  { id := service.id
    complete := fun request => onFirst τ (service.complete request)
    stream := fun request => onFirst τ (service.stream request) }

/-- The same hook in a wider state. -/
def Hook.beside (τ : Type) (hook : Hook σ) : Hook (σ × τ) :=
  { before := fun d pending => onFirst τ (hook.before d pending)
    after := fun d finished => onFirst τ (hook.after d finished) }

/-- The same collection in a wider state. -/
def Collection.beside (τ : Type) (c : Collection σ) : Collection (σ × τ) :=
  { name := c.name, description := c.description, functions := c.functions.map (·.beside τ) }

/-- The same registry in a wider state. -/
def Registry.beside (τ : Type) (r : Registry σ) : Registry (σ × τ) :=
  ⟨r.collections.map (·.beside τ)⟩

/-- The same hooks in a wider state. -/
def hooksBeside (τ : Type) (hooks : List (HookId × Hook σ)) : List (HookId × Hook (σ × τ)) :=
  hooks.map fun entry => (entry.1, entry.2.beside τ)

/-- The same engine in a wider state. -/
def Engine.beside (τ : Type) (e : Engine σ) : Engine (σ × τ) :=
  { registry := e.registry.beside τ
    services := e.services.map (·.beside τ)
    hooks := hooksBeside τ e.hooks
    nextHook := e.nextHook
    config := e.config }

/-! ## §3. What is looked up. -/

/-- A name means the same function in a wider state. -/
theorem Collection.get?_beside (c : Collection σ) (name : String) :
    (c.beside τ).functions.get? name = (c.functions.get? name).map (·.beside τ) :=
  Table.get?_map _ _ _

namespace Registry

variable (r : Registry σ)

theorem get_beside (collection name : String) :
    (r.beside τ).get collection name = (r.get collection name).map (·.beside τ) := by
  unfold get beside
  rw [Table.get?_map]
  cases r.collections.get? collection with
  | none => rfl
  | some c =>
      rw [Option.map_some]
      dsimp only
      rw [Collection.get?_beside]
      cases c.functions.get? name <;> rfl

theorem find_beside (name : String) :
    (r.beside τ).find name = (r.find name).map (·.beside τ) := by
  have hfound : ((r.beside τ).collections.values.findSome? fun c => c.functions.get? name)
      = (r.collections.values.findSome? fun c => c.functions.get? name).map (·.beside τ) := by
    rw [beside, Table.values_map, List.findSome?_map, List.map_findSome?]
    congr 1
    funext c
    exact c.get?_beside name
  unfold find
  rw [hfound]
  cases r.collections.values.findSome? fun c => c.functions.get? name <;> rfl

theorem resolve_beside (reference : FunctionRef) :
    (r.beside τ).resolve reference = (r.resolve reference).map (·.beside τ) := by
  unfold resolve
  cases reference.collection with
  | some collection => exact get_beside r collection reference.name
  | none => exact find_beside r reference.name

theorem resolveTool_beside (tool : String) :
    (r.beside τ).resolveTool tool = (r.resolveTool tool).map (·.beside τ) := by
  unfold resolveTool
  dsimp only
  cases tool.toList.dropWhile (· != toolSeparator) with
  | nil => exact find_beside r tool
  | cons _ after => exact get_beside r _ _

theorem functions_beside : (r.beside τ).functions = r.functions.map (·.beside τ) := by
  unfold functions beside
  rw [Table.values_map, List.flatMap_map, List.map_flatMap]
  congr 1
  funext c
  exact Table.values_map _ _

theorem descriptors_beside : (r.beside τ).descriptors = r.descriptors := by
  unfold descriptors
  rw [functions_beside, List.map_map]
  rfl

end Registry

namespace Engine

variable (e : Engine σ)

theorem prepareCall_beside (call : Invocation) (arguments : Arguments) :
    (e.beside τ).prepareCall call arguments
      = (e.prepareCall call arguments).map fun prepared => (prepared.1.beside τ, prepared.2) := by
  unfold prepareCall
  rw [show (e.beside τ).registry.resolve call.function.node = _ from
    Registry.resolve_beside e.registry call.function.node]
  cases e.registry.resolve call.function.node with
  | error error => rfl
  | ok f =>
      show (do return (f.beside τ, ← f.descriptor.bindCall call arguments)) = Except.map _
        (do return (f, ← f.descriptor.bindCall call arguments))
      cases f.descriptor.bindCall call arguments <;> rfl

/-- The same request in a wider state. -/
def ToolRequest.beside (τ : Type) : ToolRequest σ → ToolRequest (σ × τ)
  | .answer message => .answer message
  | .call f arguments => .call (f.beside τ) arguments

theorem prepareTool_beside (arguments : Arguments) (request : ToolCall) :
    (e.beside τ).prepareTool arguments request
      = (e.prepareTool arguments request).map (·.beside τ) := by
  unfold prepareTool
  cases request.readArguments with
  | error error => rfl
  | ok given =>
      dsimp only
      rw [show (e.beside τ).registry.resolveTool request.name = _ from
        Registry.resolveTool_beside e.registry request.name]
      cases e.registry.resolveTool request.name with
      | error error => rfl
      | ok f =>
          have hdescriptor : (f.beside τ).descriptor = f.descriptor := rfl
          simp only [Except.map, bind, Except.bind, hdescriptor]
          cases missingNames f.descriptor (arguments.insertAll given) <;> rfl

theorem service?_beside (id : Option String) :
    (e.beside τ).service? id = (e.service? id).map (·.beside τ) := by
  cases id with
  | some id => exact Table.get?_map _ _ _
  | none =>
      show (e.services.map (·.beside τ)).values.head? = e.services.values.head?.map (·.beside τ)
      rw [Table.values_map, List.head?_map]

theorem firstServed?_beside (entries : List (String × Settings)) :
    (e.beside τ).firstServed? entries
      = (e.firstServed? entries).map fun served => (served.1.beside τ, served.2) := by
  induction entries with
  | nil => rfl
  | cons entry rest ih =>
      obtain ⟨key, settings⟩ := entry
      have hserved : (e.beside τ).serviceFor? key = (e.serviceFor? key).map (·.beside τ) :=
        service?_beside e _
      unfold firstServed?
      rw [hserved, ih]
      cases e.serviceFor? key <;> rfl

theorem selectService_beside (settings : Option (Table Settings)) :
    (e.beside τ).selectService settings
      = (e.selectService settings).map fun served => (served.1.beside τ, served.2) := by
  unfold selectService
  cases (settings.getD .empty).entries with
  | nil =>
      unfold service
      rw [service?_beside]
      cases e.service? none <;> rfl
  | cons entry rest =>
      dsimp only
      rw [firstServed?_beside]
      cases e.firstServed? ((entry.1, entry.2) :: rest) <;> rfl

/-! ## §4. Hooks and attempts. -/

theorem askBefore_beside (d : Descriptor) (hooks : List (HookId × Hook σ)) (pending : Pending) :
    askBefore d (hooksBeside τ hooks) pending = (askBefore d hooks pending).beside τ := by
  induction hooks generalizing pending with
  | nil => rfl
  | cons entry rest ih =>
      simp only [hooksBeside, List.map_cons, askBefore, Exec.beside_bind, Exec.beside_act,
        Exec.beside_emit] at ih ⊢
      refine bind_congr fun answer => bind_congr fun _ => ?_
      cases answer.action with
      | proceed => exact ih _
      | cancel => rfl
      | skip => rfl

theorem askAfter_beside (d : Descriptor) (hooks : List (HookId × Hook σ)) (finished : Finished) :
    askAfter d (hooksBeside τ hooks) finished = (askAfter d hooks finished).beside τ := by
  induction hooks generalizing finished with
  | nil => rfl
  | cons entry rest ih =>
      simp only [hooksBeside, List.map_cons, askAfter, Exec.beside_bind, Exec.beside_act,
        Exec.beside_emit] at ih ⊢
      refine bind_congr fun answer => bind_congr fun _ => ?_
      cases answer.action with
      | proceed => exact ih _
      | cancel => rfl
      | again arguments => rfl

section Attempts

variable (hooks : List (HookId × Hook σ)) {body : Caller σ FunctionResult}
  {body' : Caller (σ × τ) FunctionResult} (f : Function σ)
  (hbody : ∀ arguments, body' (f.beside τ) arguments = (body f arguments).beside τ)

include hbody

theorem attempt_beside (arguments : Arguments) :
    attempt (hooksBeside τ hooks) body' (f.beside τ) arguments
      = (attempt hooks body f arguments).beside τ := by
  unfold attempt
  rw [show (f.beside τ).descriptor = f.descriptor from rfl]
  dsimp only
  rw [askBefore_beside, Exec.beside_bind]
  refine bind_congr fun asked => ?_
  obtain ⟨action, pending⟩ := asked
  cases action with
  | cancel => rfl
  | skip => rfl
  | proceed =>
      simp only [hbody, askAfter_beside, Exec.beside_bind, Exec.beside_inside, Exec.beside_pure]

theorem attempts_beside (repeats : Nat) (arguments : Arguments) :
    attempts (hooksBeside τ hooks) body' (f.beside τ) repeats arguments
      = (attempts hooks body f repeats arguments).beside τ := by
  induction repeats generalizing arguments with
  | zero =>
      rw [attempts, attempts, attempt_beside hooks f hbody, Exec.beside_bind]
      refine bind_congr fun verdict => ?_
      cases verdict <;> rfl
  | succ repeats ih =>
      rw [attempts, attempts, attempt_beside hooks f hbody, Exec.beside_bind]
      refine bind_congr fun verdict => ?_
      cases verdict with
      | «over» outcome => rfl
      | again next otherwise => exact ih next

end Attempts

/-! ## §5. Bodies. -/

theorem takeIn_beside (sum : Accumulator) (fragments : List (Except String Fragment)) :
    (takeIn sum fragments : Exec (σ × τ) _) = (takeIn sum fragments : Exec σ _).beside τ := by
  induction fragments generalizing sum with
  | nil => rfl
  | cons fragment rest ih =>
      cases fragment with
      | error failure => rfl
      | ok f =>
          rw [takeIn, takeIn, Exec.beside_bind, Exec.beside_emit]
          refine bind_congr fun _ => ?_
          dsimp only
          split
          · rfl
          · exact ih _

theorem askFor_beside (streamed : Bool) (service : Service σ) (settings : Settings)
    (history : History) :
    (e.beside τ).askFor streamed (service.beside τ) settings history
      = (e.askFor streamed service settings history).beside τ := by
  unfold askFor
  rw [show (e.beside τ).registry.descriptors = _ from Registry.descriptors_beside e.registry]
  cases streamed with
  | false =>
      simp only [Bool.false_eq_true, if_false, requestReply, Exec.beside_bind, Exec.beside_emit,
        Exec.beside_act]
      refine bind_congr fun _ => bind_congr fun got => ?_
      cases got <;> rfl
  | true =>
      simp only [if_true, requestStream, Exec.beside_bind, Exec.beside_emit, Exec.beside_act]
      refine bind_congr fun _ => bind_congr fun got => ?_
      cases got with
      | error failure => rfl
      | ok fragments =>
          dsimp only
          rw [takeIn_beside, Exec.beside_orFail]
          rfl

/-- Rounds whose replies and answers are the same with room beside them. -/
theorem leadRounds_beside {ask : History → Exec σ (Except EngineError Message)}
    {ask' : History → Exec (σ × τ) (Except EngineError Message)}
    {resolve : List ToolCall → Exec σ (Except EngineError (List Message))}
    {resolve' : List ToolCall → Exec (σ × τ) (Except EngineError (List Message))}
    (hask : ∀ history, ask' history = (ask history).beside τ)
    (hresolve : ∀ requests, resolve' requests = (resolve requests).beside τ) (autoInvoke : Bool)
    (spent : EngineError) (remaining : Nat) (history : History) :
    leadRounds ask' resolve' autoInvoke spent remaining history
      = (leadRounds ask resolve autoInvoke spent remaining history).beside τ := by
  induction remaining generalizing history with
  | zero => rfl
  | succ remaining ih =>
      rw [leadRounds, leadRounds, hask, Exec.beside_bind]
      refine bind_congr fun got => ?_
      cases got with
      | error error => rfl
      | ok reply =>
          dsimp only
          split
          · rfl
          · rw [hresolve, Exec.beside_bind]
            refine bind_congr fun answers => ?_
            cases answers with
            | error error => rfl
            | ok messages => exact ih _

section Bodies

variable {invoke : Caller σ Outcome} {invoke' : Caller (σ × τ) Outcome}
  (hinvoke : ∀ f arguments, invoke' (f.beside τ) arguments = (invoke f arguments).beside τ)

include hinvoke

theorem renderInvocation_beside (arguments : Arguments) (trust : Trust) (call : Invocation) :
    (e.beside τ).renderInvocation invoke' arguments trust call
      = (e.renderInvocation invoke arguments trust call).beside τ := by
  unfold renderInvocation
  rw [prepareCall_beside]
  cases e.prepareCall call arguments with
  | error error => rfl
  | ok prepared =>
      dsimp only [Except.map]
      rw [hinvoke, Exec.beside_orFail]
      rfl

theorem renderBlock_beside (arguments : Arguments) (trust : Trust) (block : Block) :
    (e.beside τ).renderBlock invoke' arguments trust block
      = (e.renderBlock invoke arguments trust block).beside τ := by
  cases block with
  | text t => rfl
  | value v => rfl
  | «variable» name => rfl
  | namedArgument argument => rfl
  | invocation call => exact renderInvocation_beside e hinvoke arguments trust call

theorem renderTemplate_beside (template : Template) (arguments : Arguments) (trust : Trust) :
    (e.beside τ).renderTemplate invoke' template arguments trust
      = (e.renderTemplate invoke template arguments trust).beside τ := by
  unfold renderTemplate
  induction template.blocks with
  | nil => rfl
  | cons block rest ih =>
      rw [renderBlocks, renderBlocks, renderBlock_beside e hinvoke, Exec.beside_bind, ih]
      refine bind_congr fun outcome => ?_
      cases outcome with
      | error error => rfl
      | ok text =>
          rw [Exec.beside_orFail]
          rfl

theorem resolveTool_beside (arguments : Arguments) (request : ToolCall) :
    (e.beside τ).resolveTool invoke' arguments request
      = (e.resolveTool invoke arguments request).beside τ := by
  rw [resolveTool_eq, resolveTool_eq, prepareTool_beside]
  cases e.prepareTool arguments request with
  | error error => rfl
  | ok prepared =>
      cases prepared with
      | answer message => rfl
      | call f given =>
          dsimp only [Except.map, ToolRequest.beside]
          rw [hinvoke, Exec.beside_orFail]
          rfl

theorem resolveTools_beside (arguments : Arguments) (requests : List ToolCall) :
    (e.beside τ).resolveTools invoke' arguments requests
      = (e.resolveTools invoke arguments requests).beside τ := by
  have heach : (e.beside τ).resolveEach invoke' arguments requests
      = (e.resolveEach invoke arguments requests).beside τ := by
    induction requests with
    | nil => rw [resolveEach_nil, resolveEach_nil, Exec.beside_pure]
    | cons request rest ih =>
        simp only [resolveEach_cons, resolveTool_beside e hinvoke, ih, Exec.beside_bind,
          Exec.beside_pure]
  unfold resolveTools
  rw [heach, Exec.beside_bind]
  rfl

theorem converse_beside (o : ConversationOptions) (streamed : Bool) (service : Service σ)
    (settings : Settings) (arguments : Arguments) (history : History) :
    (e.beside τ).converse invoke' o streamed (service.beside τ) settings arguments history
      = (e.converse invoke o streamed service settings arguments history).beside τ :=
  leadRounds_beside (askFor_beside e streamed service settings)
    (resolveTools_beside e hinvoke arguments) o.autoInvoke service.noReply o.rounds history

theorem carryOut_beside (f : Function σ) (arguments : Arguments) :
    (e.beside τ).carryOut invoke' (f.beside τ) arguments
      = (e.carryOut invoke f arguments).beside τ := by
  unfold carryOut
  rw [show (f.beside τ).descriptor = f.descriptor from rfl]
  cases f.descriptor.bindDefaults arguments with
  | error error => rfl
  | ok arguments =>
      unfold Function.beside
      cases f.body with
      | native compute => simp only [computeNative, Exec.beside_bind, Exec.beside_emit,
          Exec.beside_act, Exec.beside_pure]
      | prompt template settings =>
          dsimp only
          unfold askPrompt
          rw [Exec.beside_orFail, ← renderTemplate_beside e hinvoke]
          refine congrArg _ (funext fun prompt => ?_)
          rw [selectService_beside]
          cases e.selectService (arguments.settings.or (some settings)) with
          | error error => rfl
          | ok served =>
              show (e.beside τ).converse invoke' _ _ (served.1.beside τ) _ _ _ >>= _ = _
              rw [converse_beside e hinvoke, Exec.beside_bind]
              rfl

end Bodies

/-- **Room beside the state changes nothing**: an invocation in the wider state does what it does in
its own, and leaves the room as it was. -/
theorem caller_beside (depth : Nat) (f : Function σ) (arguments : Arguments) :
    (e.beside τ).caller depth (f.beside τ) arguments = (e.caller depth f arguments).beside τ := by
  induction depth generalizing f arguments with
  | zero => rfl
  | succ depth ih =>
      have hbody : ∀ arguments, (e.beside τ).carryOut ((e.beside τ).caller depth) (f.beside τ)
          arguments = (e.carryOut (e.caller depth) f arguments).beside τ :=
        carryOut_beside e ih f
      show Exec.inside _ (attempts (hooksBeside τ e.hooks) _ _ _ _) = _
      rw [attempts_beside e.hooks f hbody, ← Exec.beside_inside]
      rfl

end Engine

end PromptEngine
