/-
  PromptEngine.Proofs.Engine.Failure — what a conversation that failed leaves in its history.

  A reply that requests tool calls is settled if the messages behind it begin with one answer for
  each of its calls.  A conversation adds whole exchanges, which are settled, and then its last
  round.  If the service is what failed, the last round adds nothing; if the requests of a reply
  could not be answered, it adds that reply and no answer at all.  So at most one reply is left
  open by a failure, and it stands at the end (`converse_failed`); that there may be one is shown
  by a model that asks for a tool nobody has (`converse_left_open`).

  Main result: `converse_failed`.
-/
import Mathlib.Data.List.Forall2
import PromptEngine.Proofs.Engine.Conversation

namespace PromptEngine

/-! ## §1. Settled requests. -/

/-- The tool calls of a message are answered if what follows begins with one tool message for each
of them, in their order. -/
def Message.Answered (m : Message) (after : History) : Prop :=
  ∃ results rest, after = results ++ rest ∧ List.Forall₂ Message.Answers results m.toolCalls

/-- A part of a history in which every request is answered.  Tool messages are the answers; any
other message may request tool calls. -/
def Settled (part : History) : Prop :=
  ∀ before m after, part = before ++ m :: after → m.role ≠ .tool → m.Answered after

theorem Message.Answered.append {m : Message} {after : History} (h : m.Answered after)
    (more : History) : m.Answered (after ++ more) := by
  obtain ⟨results, rest, rfl, hanswers⟩ := h
  exact ⟨results, rest ++ more, List.append_assoc .., hanswers⟩

/-- Without an answer behind it, a message that requests tool calls stays open. -/
theorem Message.not_answered_nil {m : Message} (h : m.hasToolCalls = true) : ¬ m.Answered [] := by
  rintro ⟨results, rest, hnil, hanswers⟩
  obtain ⟨rfl, rfl⟩ := List.append_eq_nil_iff.mp hnil.symm
  -- No answers are the answers to no calls.
  have hnone : m.toolCalls = [] := List.forall₂_nil_left_iff.mp hanswers
  unfold Message.hasToolCalls at h
  rw [hnone] at h
  contradiction

theorem settled_nil : Settled [] := by
  intro before m after h
  simp at h

theorem Settled.append {part more : History} (hpart : Settled part) (hmore : Settled more) :
    Settled (part ++ more) := by
  intro before m after h hrole
  obtain ⟨middle, rfl, hrest⟩ | ⟨middle, hfront, hrest⟩ := List.append_eq_append_iff.mp h
  · exact hmore middle m after hrest hrole
  · cases middle with
    | nil => exact hmore [] m after hrest.symm hrole
    | cons first middle =>
        -- The message stands in the first part, and so do its answers.
        obtain ⟨rfl, rfl⟩ : m = first ∧ after = middle ++ more := by simpa using hrest
        exact (hpart before m middle hfront hrole).append more

/-- A complete exchange is settled: its reply is answered, and the rest are the answers. -/
theorem Exchange.Complete.settled {x : Exchange} (h : x.Complete) : Settled x.messages := by
  intro before m after hsplit hrole
  cases before with
  | nil =>
      obtain ⟨rfl, rfl⟩ : x.reply = m ∧ x.results = after := by
        simpa [Exchange.messages] using hsplit
      exact ⟨x.results, [], (List.append_nil _).symm, h.answers⟩
  | cons reply before =>
      have htools : ∀ result ∈ x.results, result.role = .tool :=
        (List.forall₂_and_left _ _).mp h.answers |>.1
      have hresults : x.results = before ++ m :: after := (List.cons.inj hsplit).2
      have hmem : m ∈ x.results := by
        rw [hresults]
        exact List.mem_append_right before List.mem_cons_self
      exact absurd (htools m hmem) hrole

/-- A row of complete exchanges is settled. -/
theorem settled_exchanges {exchanges : List Exchange} (h : ∀ x ∈ exchanges, x.Complete) :
    Settled (exchanges.flatMap Exchange.messages) := by
  induction exchanges with
  | nil => exact settled_nil
  | cons x exchanges ih =>
      obtain ⟨hx, hexchanges⟩ := List.forall_mem_cons.mp h
      rw [List.flatMap_cons]
      exact hx.settled.append (ih hexchanges)

/-! ## §2. Conversations that fail. -/

namespace Engine

variable {σ : Type}

/-- **A conversation that failed leaves at most its last reply open.**  What it added to the
history is settled if it could not get a reply.  If instead the requests of a reply could not be
answered, that reply is the last message, without any answer, and all that was added before it is
settled. -/
theorem converse_failed (e : Engine σ) (depth : Nat) (o : ConversationOptions) (streamed : Bool)
    (service : Service σ) (settings : Settings) (arguments : Arguments) (history final : History)
    (error : EngineError) (s s' : σ) (events : List Event)
    (h : e.converse (e.caller depth) o streamed service settings arguments history s
      = some ((.error error, final), s', events)) :
    ∃ added, Settled added ∧
      ((final = history ++ added ∧
          ∃ s₁ before after, events = before ++ after ∧
            e.askFor streamed service settings final s₁ = some (.error error, s', after)) ∨
        ∃ reply, final = history ++ (added ++ [reply]) ∧ reply.hasToolCalls = true ∧
          ¬ reply.Answered [] ∧
          ∃ s₁ s₂ before asked answered, events = before ++ (asked ++ answered) ∧
            e.askFor streamed service settings (history ++ added) s₁
              = some (.ok reply, s₂, asked) ∧
            e.resolveTools (e.caller depth) arguments reply.toolCalls s₂
              = some (.error error, s', answered)) := by
  obtain ⟨more, hmore⟩ := rounds_eq_succ o
  rw [converse_eq_leadRounds, hmore] at h
  obtain ⟨exchanges, s₁, before, after, hexchanges, -, hlast, rfl⟩ :=
    leadRounds_run more history s events h
  have hsettled : Settled (exchanges.flatMap Exchange.messages) :=
    settled_exchanges hexchanges.complete.1
  refine ⟨exchanges.flatMap Exchange.messages, hsettled, ?_⟩
  -- Only the last round can have failed, and there are two ways in which it can.
  cases hlast with
  | unanswered hask => exact Or.inl ⟨rfl, s₁, before, after, rfl, hask⟩
  | unresolved hask hcalls _ _ hresolve =>
      refine Or.inr ⟨_, ?_, hcalls, Message.not_answered_nil hcalls, s₁, _, before, _, _, rfl, hask,
        hresolve⟩
      show transcript history exchanges ++ _ = _
      unfold transcript
      rw [List.append_assoc]

/-- A model that asks for the time once and then, in one reply, for the time and for a tool that
nobody has. -/
def wanderer : Service Nat :=
  .ofComplete "wanderer" fun _ n =>
    match n with
    | 0 => (.ok [.toolRequests [⟨"a", "watch-time", ""⟩]], 1)
    | n + 1 => (.ok [.toolRequests [⟨"b", "watch-time", ""⟩, ⟨"c", "watch-date", ""⟩]], n + 2)

/-- An engine that knows the time only. -/
def watch : Engine Nat :=
  { registry := (Registry.empty.register "watch"
      (.ofPure { name := "time" } fun _ => .ok (.string "noon"))).2 }

/-- The reply that the model gives in its second round. -/
def openReply : Message :=
  .toolRequests [⟨"b", "watch-time", ""⟩, ⟨"c", "watch-date", ""⟩]

/-- What the first round adds. -/
def timeTold : History :=
  [.toolRequests [⟨"a", "watch-time", ""⟩], .toolResult "a" "watch-time" "noon"]

/-- The second round fails, and its reply is the last message. -/
theorem converse_watch :
    ∃ events, watch.converse (watch.caller 1) ⟨true, 5⟩ false wanderer {} {} [.user "when?"] 0
      = some ((.error (.functionNotFound "watch" "date"),
          [.user "when?"] ++ (timeTold ++ [openReply])), 2, events) :=
  ⟨_, rfl⟩

theorem converse_failed_watch :
    ∃ events,
      watch.converse (watch.caller 1) ⟨true, 5⟩ false wanderer {} {} [.user "when?"] 0
        = some ((.error (.functionNotFound "watch" "date"),
            [.user "when?"] ++ (timeTold ++ [openReply])), 2, events) ∧
      Settled timeTold ∧ ¬ openReply.Answered [] := by
  obtain ⟨events, hrun⟩ := converse_watch
  refine ⟨events, hrun, ?_⟩
  obtain ⟨added, hsettled, ⟨hfinal, -⟩ | ⟨reply, hfinal, -, hopen, -⟩⟩ :=
    converse_failed watch 1 ⟨true, 5⟩ false wanderer {} {} [.user "when?"] _ _ 0 2 events hrun
  · -- The service did not fail: else the last reply would be settled.
    rw [← List.append_cancel_left hfinal] at hsettled
    have hanswered := hsettled timeTold openReply [] rfl (by decide)
    exact absurd hanswered (Message.not_answered_nil rfl)
  · obtain ⟨rfl, hlast⟩ := List.append_inj' (List.append_cancel_left hfinal) rfl
    rw [List.singleton_inj.mp hlast]
    exact ⟨hsettled, hopen⟩

/-- A failure may leave a request without an answer: of the calls in the last reply none is
answered, not even the one for a tool that is there. -/
theorem converse_left_open :
    ¬ ∀ (e : Engine Nat) (depth : Nat) (o : ConversationOptions) (streamed : Bool)
        (service : Service Nat) (settings : Settings) (arguments : Arguments)
        (history added : History) (error : EngineError) (s s' : Nat) (events : List Event),
      e.converse (e.caller depth) o streamed service settings arguments history s
        = some ((.error error, history ++ added), s', events) →
      ∀ before m after, added = before ++ m :: after → m.role = .assistant →
        m.hasToolCalls = true → m.Answered after := by
  intro hsettled
  obtain ⟨events, hrun⟩ := converse_watch
  have hanswered : openReply.Answered [] :=
    hsettled watch 1 ⟨true, 5⟩ false wanderer {} {} [.user "when?"] (timeTold ++ [openReply])
      (.functionNotFound "watch" "date") 0 2 events hrun timeTold openReply [] rfl rfl rfl
  exact Message.not_answered_nil rfl hanswered

end Engine

end PromptEngine
