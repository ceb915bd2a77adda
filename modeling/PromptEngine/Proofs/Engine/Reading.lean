/-
  PromptEngine.Proofs.Engine.Reading — how far a streamed reply is read.

  A stream is read as far as the end of the reply and no further.  The end is where a choice ends of
  which no lower one has arrived (`EndsReply`); since a lower one may arrive at any time, whether a
  fragment is the end depends on all that was read before.  If there is no such fragment, the stream
  is read as far as a failure or to its own end (`ReadOf`).  The code asks an accumulator instead of
  the fragments that were read; an accumulator has what it takes to tell (`endsReply_ofList`), so
  what is taken in is what is read (`takeIn_readOf`).
-/
import PromptEngine.Engine.Conversation
import PromptEngine.Proofs.Chat.Interleaving
import PromptEngine.Proofs.Engine.Exec

namespace PromptEngine

variable {σ : Type}

/-! ## §1. Where a reply ends. -/

/-- The last fragment is the end of its choice, and no fragment is of a lower choice. -/
def EndsReply (read : List Fragment) : Prop :=
  ∃ f ∈ read.getLast?, (f.finishReason = some .stop ∨ f.finishReason = some .toolCalls) ∧
    ∀ g ∈ read, f.choice ≤ g.choice

/-- Nowhere in what was read has the reply ended. -/
def StillOpen (read : List Fragment) : Prop :=
  ∀ front, front <+: read → ¬ EndsReply front

/-- The reply ends here and not before. -/
structure WholeReply (read : List Fragment) : Prop where
  ends : EndsReply read
  shortest : ∀ front, front <+: read → EndsReply front → front = read

theorem endsReply_concat {before : List Fragment} {f : Fragment} :
    EndsReply (before ++ [f]) ↔
      f.isTerminal = true ∧ ∀ g ∈ before ++ [f], f.choice ≤ g.choice := by
  simp [EndsReply, Fragment.isTerminal]

theorem stillOpen_nil : StillOpen [] := by
  intro front hfront
  rw [List.prefix_nil.mp hfront]
  rintro ⟨f, hf, -⟩
  contradiction

/-- What was open stays open if the next fragment does not end it. -/
theorem StillOpen.concat {before : List Fragment} {f : Fragment} (h : StillOpen before)
    (hf : ¬ EndsReply (before ++ [f])) : StillOpen (before ++ [f]) := by
  intro front hfront
  obtain rfl | hfront := List.prefix_concat_iff.mp hfront
  · exact hf
  · exact h front hfront

/-- A reply that ends is open before its last fragment. -/
theorem WholeReply.concat {read : List Fragment} (h : WholeReply read) :
    ∃ before f, read = before ++ [f] ∧ StillOpen before := by
  obtain ⟨f, hf, -⟩ := h.ends
  obtain ⟨before, rfl⟩ := List.getLast?_eq_some_iff.mp hf
  refine ⟨before, f, rfl, fun front hfront hends => ?_⟩
  have hwhole := h.shortest front (hfront.trans (List.prefix_append before [f])) hends
  have hlength := hfront.length_le
  rw [hwhole, List.length_append, List.length_singleton] at hlength
  omega

/-- **Fragments are open or hold a reply** at their beginning, which ends somewhere first. -/
theorem stillOpen_or_wholeReply (read : List Fragment) :
    StillOpen read ∨ ∃ front back, read = front ++ back ∧ WholeReply front := by
  induction read using List.reverseRecOn with
  | nil => exact Or.inl stillOpen_nil
  | append_singleton read f ih =>
      obtain hopen | ⟨front, back, rfl, hwhole⟩ := ih
      · by_cases hends : EndsReply (read ++ [f])
        · refine Or.inr ⟨read ++ [f], [], (List.append_nil _).symm, hends, fun front hfront h => ?_⟩
          obtain hfront | hfront := List.prefix_concat_iff.mp hfront
          · exact hfront
          · exact absurd h (hopen front hfront)
        · exact Or.inl (hopen.concat hends)
      · exact Or.inr ⟨front, back ++ [f], List.append_assoc front back [f], hwhole⟩

/-! ## §2. What is read of a stream. -/

/-- What is read of a stream, and the failure that broke it off, if one did. -/
inductive ReadOf : List (Except String Fragment) → List Fragment → Option String → Prop where
  /-- The reply ends, and whatever follows is not read. -/
  | ended {read : List Fragment} (rest : List (Except String Fragment)) :
      WholeReply read → ReadOf (read.map .ok ++ rest) read none
  /-- The stream ends, and the reply has not ended. -/
  | exhausted {read : List Fragment} : StillOpen read → ReadOf (read.map .ok) read none
  /-- A fragment fails to arrive, and the reply has not ended. -/
  | broken {read : List Fragment} {failure : String} (rest : List (Except String Fragment)) :
      StillOpen read → ReadOf (read.map .ok ++ .error failure :: rest) read (some failure)

/-- The fragments of a stream up to its first failure or to its end. -/
theorem exists_fragments (stream : List (Except String Fragment)) :
    ∃ read : List Fragment, stream = read.map .ok ∨
      ∃ failure rest, stream = read.map .ok ++ .error failure :: rest := by
  induction stream with
  | nil => exact ⟨[], Or.inl rfl⟩
  | cons arrival stream ih =>
      cases arrival with
      | error failure => exact ⟨[], Or.inr ⟨failure, stream, rfl⟩⟩
      | ok f =>
          obtain ⟨read, rfl | ⟨failure, rest, rfl⟩⟩ := ih
          · exact ⟨f :: read, Or.inl rfl⟩
          · exact ⟨f :: read, Or.inr ⟨failure, rest, rfl⟩⟩

/-- If a reply ends among the first fragments of a stream, it is read as far as that, whatever
follows. -/
theorem WholeReply.readOf {front : List Fragment} (h : WholeReply front) (back : List Fragment)
    (rest : List (Except String Fragment)) :
    ReadOf ((front ++ back).map .ok ++ rest) front none := by
  rw [List.map_append, List.append_assoc]
  exact .ended _ h

/-- Every stream is read in some way. -/
theorem exists_readOf (stream : List (Except String Fragment)) :
    ∃ read fault, ReadOf stream read fault := by
  obtain ⟨fragments, hstream⟩ := exists_fragments stream
  obtain hopen | ⟨front, back, rfl, hwhole⟩ := stillOpen_or_wholeReply fragments
  · obtain rfl | ⟨failure, rest, rfl⟩ := hstream
    · exact ⟨fragments, none, .exhausted hopen⟩
    · exact ⟨fragments, some failure, .broken rest hopen⟩
  · obtain rfl | ⟨failure, rest, rfl⟩ := hstream
    · have hread := hwhole.readOf back []
      rw [List.append_nil] at hread
      exact ⟨front, none, hread⟩
    · exact ⟨front, none, hwhole.readOf back (.error failure :: rest)⟩

/-- Answers of a service that nobody can tell apart who reads no further than to the end of a
reply or to a failure. -/
inductive ReadAlike : Except String (List (Except String Fragment)) →
    Except String (List (Except String Fragment)) → Prop where
  | same (answer : Except String (List (Except String Fragment))) : ReadAlike answer answer
  /-- The same fragments arrive, and the reply ends with them. -/
  | ended {read : List Fragment} (rest rest' : List (Except String Fragment)) :
      EndsReply read → ReadAlike (.ok (read.map .ok ++ rest)) (.ok (read.map .ok ++ rest'))
  /-- The same fragments arrive, and then the same failure. -/
  | broken (read : List Fragment) (failure : String) (rest rest' : List (Except String Fragment)) :
      ReadAlike (.ok (read.map .ok ++ .error failure :: rest))
        (.ok (read.map .ok ++ .error failure :: rest'))

/-- Of answers that cannot be told apart the same is read. -/
theorem ReadAlike.readOf {answer answer' : Except String (List (Except String Fragment))}
    (h : ReadAlike answer answer') :
    (∃ failure, answer = .error failure ∧ answer' = .error failure) ∨
      ∃ stream stream' read fault, answer = .ok stream ∧ answer' = .ok stream' ∧
        ReadOf stream read fault ∧ ReadOf stream' read fault := by
  cases h with
  | same =>
      cases answer with
      | error failure => exact Or.inl ⟨failure, rfl, rfl⟩
      | ok stream =>
          obtain ⟨read, fault, hread⟩ := exists_readOf stream
          exact Or.inr ⟨stream, stream, read, fault, rfl, rfl, hread, hread⟩
  | @ended read rest rest' hends =>
      -- The reply may end earlier than the shared part does, but not later.
      obtain hopen | ⟨front, back, rfl, hwhole⟩ := stillOpen_or_wholeReply read
      · exact absurd hends (hopen read (List.prefix_refl read))
      · exact Or.inr ⟨_, _, front, none, rfl, rfl, hwhole.readOf back rest,
          hwhole.readOf back rest'⟩
  | broken read failure rest rest' =>
      -- The failure is met only if the reply has not ended before.
      obtain hopen | ⟨front, back, rfl, hwhole⟩ := stillOpen_or_wholeReply read
      · exact Or.inr ⟨_, _, read, some failure, rfl, rfl, .broken rest hopen,
          .broken rest' hopen⟩
      · exact Or.inr ⟨_, _, front, none, rfl, rfl, hwhole.readOf back (.error failure :: rest),
          hwhole.readOf back (.error failure :: rest')⟩

/-! ## §3. What is taken in. -/

namespace Accumulator

/-- The choices that are there are those of which fragments arrived. -/
theorem mem_choices_ofList {fragments : List Fragment} {choice : Nat} :
    choice ∈ (ofList fragments).choices.map Prod.fst ↔ ∃ f ∈ fragments, f.choice = choice := by
  induction fragments using List.reverseRecOn with
  | nil => simp [ofList]
  | append_singleton fragments f ih =>
      rw [ofList_concat, push, mem_choices_pushTo, ih]
      simp [or_and_right, exists_or, or_comm, eq_comm]

/-- The first choice is the lowest one that has arrived. -/
theorem first?_ofList {fragments : List Fragment} {choice : Nat} :
    (ofList fragments).first? = some choice ↔
      (∃ f ∈ fragments, f.choice = choice) ∧ ∀ g ∈ fragments, choice ≤ g.choice := by
  have hmem : ∀ c, c ∈ (ofList fragments).choices.map Prod.fst ↔ ∃ f ∈ fragments, f.choice = c :=
    fun _ => mem_choices_ofList
  have hascending := (kept_ofList fragments).ascending
  have hall : (∀ g ∈ fragments, choice ≤ g.choice) ↔
      ∀ c ∈ (ofList fragments).choices.map Prod.fst, choice ≤ c := by
    simp [hmem]
  rw [first?, ← List.head?_map, ← hmem, hall]
  cases hchoices : (ofList fragments).choices.map Prod.fst with
  | nil => simp
  | cons first rest =>
      rw [hchoices, List.pairwise_cons] at hascending
      rw [List.head?_cons, Option.some.injEq]
      constructor
      · rintro rfl
        refine ⟨List.mem_cons_self, List.forall_mem_cons.mpr ⟨Nat.le_refl _, fun c hc => ?_⟩⟩
        exact Nat.le_of_lt (hascending.1 c hc)
      · rintro ⟨hin, hlowest⟩
        obtain rfl | hin := List.mem_cons.mp hin
        · rfl
        · have hlt := hascending.1 choice hin
          have hle := hlowest first List.mem_cons_self
          omega

end Accumulator

namespace Engine

/-- **An accumulator can tell** whether a fragment that it has just taken in ends the reply. -/
theorem endsReply_ofList {before : List Fragment} {f : Fragment} :
    endsReply (.ofList (before ++ [f])) f = true ↔ EndsReply (before ++ [f]) := by
  unfold endsReply
  rw [Bool.and_eq_true, beq_iff_eq, Accumulator.first?_ofList, endsReply_concat]
  refine and_congr_right fun _ => and_iff_right ⟨f, ?_, rfl⟩
  exact List.mem_append_right _ List.mem_cons_self

/-- As long as the reply has not ended, fragments are taken in one by one.  The induction is on what
is still to come, and what was taken in before grows with each step. -/
theorem takeIn_stillOpen {part : List Fragment} (rest : List (Except String Fragment)) (s : σ) :
    ∀ before : List Fragment, StillOpen (before ++ part) →
      takeIn (.ofList before) (part.map .ok ++ rest) s
        = Exec.behind (part.map .fragment) (takeIn (.ofList (before ++ part)) rest s) := by
  induction part with
  | nil =>
      intro before _
      rw [List.append_nil]
      exact (Exec.behind_nil _).symm
  | cons f part ih =>
      intro before h
      have hsplit : before ++ f :: part = before ++ [f] ++ part := by simp
      rw [hsplit] at h
      have hopen : ¬ endsReply (.ofList (before ++ [f])) f = true := fun hends =>
        h (before ++ [f]) (List.prefix_append _ _) (endsReply_ofList.mp hends)
      rw [List.map_cons, List.cons_append, takeIn, Exec.emit_bind, ← Accumulator.ofList_concat,
        if_neg hopen, ih _ h, hsplit, Exec.behind_behind]
      rfl

/-- **A stream is taken in as far as it is read.** -/
theorem takeIn_readOf {stream : List (Except String Fragment)} {read : List Fragment}
    {fault : Option String} (h : ReadOf stream read fault) (s : σ) :
    takeIn {} stream s
      = some (fault.elim (.ok (.ofList read)) fun failure => .error (.service failure), s,
          read.map .fragment) := by
  cases h with
  | ended rest hwhole =>
      -- Nothing behind the fragment that ends the reply is taken in.
      obtain ⟨before, f, rfl, hopen⟩ := hwhole.concat
      have hstop : endsReply (.ofList (before ++ [f])) f = true := endsReply_ofList.mpr hwhole.ends
      rw [List.map_append, List.append_assoc]
      refine (takeIn_stillOpen _ s [] hopen).trans ?_
      rw [List.nil_append, List.map_singleton, List.singleton_append, takeIn, Exec.emit_bind,
        ← Accumulator.ofList_concat, if_pos hstop, List.map_append]
      rfl
  | exhausted hopen =>
      have htake := takeIn_stillOpen [] s [] hopen
      rw [List.append_nil] at htake
      refine htake.trans ?_
      rw [List.nil_append, takeIn, Exec.pure_apply, Exec.behind_some, List.append_nil]
      rfl
  | broken rest hopen =>
      refine (takeIn_stillOpen _ s [] hopen).trans ?_
      rw [takeIn, Exec.pure_apply, Exec.behind_some, List.append_nil]
      rfl

end Engine

/-- A stream is read in one way. -/
theorem ReadOf.unique {stream : List (Except String Fragment)} {read read' : List Fragment}
    {fault fault' : Option String} (h : ReadOf stream read fault)
    (h' : ReadOf stream read' fault') : read' = read ∧ fault' = fault := by
  have hsame := (Engine.takeIn_readOf h ()).symm.trans (Engine.takeIn_readOf h' ())
  obtain ⟨houtcome, -, hevents⟩ := Exec.end_eq_iff.mp hsame
  refine ⟨List.map_injective_iff.mpr (fun _ _ => Event.fragment.inj) hevents, ?_⟩
  cases fault <;> cases fault' <;> simp_all

end PromptEngine
