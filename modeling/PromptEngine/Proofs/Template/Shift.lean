/-
  PromptEngine.Proofs.Template.Shift — code reads the same wherever it stands.

  `Block.shift` moves the places in a block by a number of bytes.  Code that begins so many bytes
  later is read as the same block with its places moved, or refused with the same error at a
  moved place.  This is shown for each step of the reading in turn (`lexFrom_shift`, `read_shift`,
  `check_shift`), and for the whole in `Code.parse_shift`.
-/
import PromptEngine.Proofs.Template.Grammar

namespace PromptEngine

/-! ## §1. Moved places. -/

theorem Spanned.shift_mk {α : Type} (k : Nat) (node : α) (span : Span) :
    Spanned.shift k ⟨node, span⟩ = ⟨node, span.shift k⟩ := rfl

/-- A named argument with its places moved. -/
def NamedOperand.shift (k : Nat) (argument : Spanned NamedOperand) : Spanned NamedOperand :=
  ⟨⟨argument.node.name.shift k, argument.node.operand.shift k⟩, argument.span.shift k⟩

/-- An invocation with its places moved. -/
def Invocation.shift (k : Nat) (call : Invocation) : Invocation :=
  { function := call.function.shift k
    positional := call.positional.map (·.shift k)
    named := call.named.map (NamedOperand.shift k) }

/-- A block with its places moved; only named arguments and invocations hold any. -/
def Block.shift (k : Nat) : Block → Block
  | .namedArgument argument => .namedArgument
    { name := argument.name.shift k, operand := argument.operand.shift k }
  | .invocation call => .invocation (call.shift k)
  | block => block

/-- A result with its places moved: `f` moves those of a success. -/
def movedBy {α : Type} (k : Nat) (f : α → α) : Except SyntaxError α → Except SyntaxError α
  | .ok a => .ok (f a)
  | .error e => .error (e.shift k)

@[simp] theorem movedBy_ok {α : Type} (k : Nat) (f : α → α) (a : α) :
    movedBy k f (.ok a) = .ok (f a) := rfl

@[simp] theorem movedBy_error {α : Type} (k : Nat) (f : α → α) (e : SyntaxError) :
    movedBy k f (.error e) = .error (e.shift k) := rfl

/-- Moving goes through a step that itself goes through moving. -/
theorem movedBy_bind {α β : Type} {k : Nat} {f : α → α} {g : β → β}
    {next next' : α → Except SyntaxError β} (h : ∀ a, next' (f a) = movedBy k g (next a))
    (r : Except SyntaxError α) :
    (movedBy k f r >>= next') = movedBy k g (r >>= next) := by
  cases r with
  | error e => rfl
  | ok a => exact h a

theorem movedBy_map {α β : Type} {k : Nat} {f : α → α} {g : β → β} {make make' : α → β}
    (h : ∀ a, make' (f a) = g (make a)) (r : Except SyntaxError α) :
    (movedBy k f r).map make' = movedBy k g (r.map make) := by
  cases r with
  | error e => rfl
  | ok a => exact congrArg Except.ok (h a)

/-! ## §2. Tokens. -/

/-- Tokens touch or not wherever they stand. -/
theorem touching_shift (k : Nat) (last : Option (Spanned Token)) (next : Spanned Token) :
    touching (last.map (·.shift k)) (next.shift k) = (touching last next).map (·.shift k) := by
  cases last with
  | none => rfl
  | some last =>
      have hstop : (last.span.stop + k == next.span.start + k)
          = (last.span.stop == next.span.start) := by
        rw [Bool.eq_iff_iff, beq_iff_eq, beq_iff_eq]
        omega
      simp only [touching, Option.map_some, Spanned.shift, Span.shift, hstop]
      split <;> rfl

/-- **Text is read as the same tokens wherever it stands.** -/
theorem lexFrom_shift (k pos : Nat) (last : Option (Spanned Token)) (text : List Char) :
    lexFrom (pos + k) (last.map (·.shift k)) text
      = movedBy k (List.map (·.shift k)) (lexFrom pos last text) := by
  fun_induction lexFrom pos last text with
  | case1 => rw [lexFrom]; rfl
  | case2 pos last c text hblank ih =>
      rw [lexFrom_blank hblank, ← ih, Nat.add_right_comm]
  | case3 pos last c text hblank fault width hread =>
      rw [lexFrom_fault (by simpa using hblank) hread, movedBy_error]
      simp only [SyntaxError.shift, Span.shift, Nat.add_right_comm]
  | case4 pos last c text hblank token width rest hread next span htouch =>
      have hnext : next.shift k = ⟨token, ⟨pos + k, pos + k + width⟩⟩ := by
        simp only [next, Spanned.shift, Span.shift, Nat.add_right_comm]
      have hshift := touching_shift k last next
      rw [hnext, htouch] at hshift
      rw [lexFrom_token (by simpa using hblank) hread, hshift]
      rfl
  | case5 pos last c text hblank token width rest hread next htouch ih =>
      have hnext : next.shift k = ⟨token, ⟨pos + k, pos + k + width⟩⟩ := by
        simp only [next, Spanned.shift, Span.shift, Nat.add_right_comm]
      have hshift := touching_shift k last next
      rw [hnext, htouch] at hshift
      -- The rest is read behind the moved token.
      rw [Option.map_some, hnext, Nat.add_right_comm] at ih
      rw [lexFrom_token (by simpa using hblank) hread, hshift]
      show (lexFrom _ _ rest).map _ = _
      rw [ih]
      refine movedBy_map (fun tokens => ?_) _
      rw [← hnext]
      rfl

/-! ## §3. The grammar. -/

namespace Code

/-- An argument with its places moved. -/
def CallArgument.shift (k : Nat) : CallArgument → CallArgument
  | .positional operand => .positional (operand.shift k)
  | .named argument => .named (NamedOperand.shift k argument)

/-- What the grammar recognises, with its places moved. -/
def Content.shift (k : Nat) : Content → Content
  | .value v => .value v
  | .variable name => .variable (name.shift k)
  | .invocation function arguments =>
    .invocation (function.shift k) (arguments.map (·.shift k))

theorem placeBehind_shift (k stop : Nat) (tokens : List (Spanned Token)) :
    placeBehind (stop + k) (tokens.map (·.shift k)) = (placeBehind stop tokens).shift k := by
  unfold placeBehind
  rw [List.getLast?_map]
  cases tokens.getLast? <;> rfl

theorem operand?_shift (k : Nat) (token : Spanned Token) :
    operand? (token.shift k) = (operand? token).map (·.shift k) := by
  obtain ⟨node, span⟩ := token
  cases node <;> rfl

theorem unexpectedAt_shift (k : Nat) (behind : Span) (rest : List (Spanned Token))
    (expected : List Expectation) :
    unexpectedAt (behind.shift k) (rest.map (·.shift k)) expected
      = (unexpectedAt behind rest expected).shift k := by
  cases rest <;> rfl

/-- Arguments are read as the same ones wherever they stand. -/
theorem readArguments_shift (k : Nat) (behind : Span) (here : List Expectation)
    (tokens : List (Spanned Token)) :
    readArguments (behind.shift k) here (tokens.map (·.shift k))
      = movedBy k (List.map (CallArgument.shift k)) (readArguments behind here tokens) := by
  fun_induction readArguments behind here tokens with
  | case1 here =>
      rw [List.map_nil, readArguments]
      rfl
  | case2 here token rest operand hoperand ih =>
      rw [List.map_cons, readArguments.eq_def]
      simp only [operand?_shift, hoperand, Option.map_some]
      rw [ih]
      refine movedBy_map (fun _ => ?_) _
      rfl
  | case3 here token hword name span value rest hname operand hoperand argument ih =>
      obtain ⟨node, place⟩ := token
      subst hname
      rw [readArguments.eq_def]
      simp only [List.map_cons, Spanned.shift_mk, operand?_shift, hoperand, Option.map_some]
      simp only [operand?]
      rw [ih]
      refine movedBy_map (fun _ => ?_) _
      rfl
  | case4 here token hword name span value rest hname hoperand =>
      obtain ⟨node, place⟩ := token
      subst hname
      rw [readArguments.eq_def]
      simp only [List.map_cons, Spanned.shift_mk, operand?_shift, hoperand, Option.map_none]
      simp only [operand?]
      exact congrArg Except.error (unexpectedAt_shift k behind (value :: rest) [])
  | case5 here token hword name span hname =>
      obtain ⟨node, place⟩ := token
      subst hname
      rw [readArguments.eq_def]
      rfl
  | case6 here token hword name rest hvalue hend hname =>
      obtain ⟨node, place⟩ := token
      subst hname
      -- Behind the word there is no equals sign.
      rcases rest with _ | ⟨⟨node, span⟩, rest⟩
      · rw [readArguments.eq_def]
        rfl
      · cases node with
        | equals =>
            cases rest with
            | nil => exact absurd rfl (hend span)
            | cons value rest => exact absurd rfl (hvalue span value rest)
        | _ =>
            rw [readArguments.eq_def]
            rfl
  | case7 here token hword rest hvalue hend hname =>
      obtain ⟨node, place⟩ := token
      cases node with
      | word name => exact absurd rfl (hname name)
      | «variable» name => cases hword
      | literal quote text => cases hword
      | _ =>
          rw [readArguments.eq_def]
          rfl

/-- A value or a variable is the whole block wherever it stands. -/
theorem readAlone_shift (k : Nat) (behind : Span) (content : Content)
    (rest : List (Spanned Token)) :
    readAlone (behind.shift k) (content.shift k) (rest.map (·.shift k))
      = movedBy k (Content.shift k) (readAlone behind content rest) := by
  cases rest <;> rfl

/-- **Tokens are read as the same content wherever they stand.** -/
theorem read_shift (k : Nat) (behind : Span) (tokens : List (Spanned Token)) :
    Code.read (behind.shift k) (tokens.map (·.shift k))
      = movedBy k (Content.shift k) (Code.read behind tokens) := by
  fun_cases Code.read behind tokens with
  | case1 quote text span rest => exact readAlone_shift k behind (.value ⟨text, quote⟩) rest
  | case2 name span rest => exact readAlone_shift k behind (.variable ⟨name, span⟩) rest
  | case3 collection first span name last rest =>
      show (readArguments (behind.shift k) [.endOfBlock] (rest.map (·.shift k))).map _ = _
      rw [readArguments_shift]
      refine movedBy_map (fun _ => ?_) _
      rfl
  | case4 collection span dot rest hname =>
      -- Behind the dot there is no word.
      rcases rest with _ | ⟨⟨node, place⟩, rest⟩
      · rfl
      · cases node with
        | word name => exact absurd rfl (hname name place rest)
        | _ => rfl
  | case5 name span rest hmember hdot =>
      have hread : Code.read (behind.shift k) (⟨.word name, span.shift k⟩ :: rest.map (·.shift k))
          = (readArguments (behind.shift k) [.token .dot, .endOfBlock] (rest.map (·.shift k))).map
              (.invocation ⟨⟨none, name⟩, span.shift k⟩) := by
        rcases rest with _ | ⟨⟨node, place⟩, rest⟩
        · rfl
        · cases node with
          | dot => exact absurd rfl (hdot place rest)
          | _ => rfl
      rw [List.map_cons, Spanned.shift_mk, hread, readArguments_shift]
      refine movedBy_map (fun _ => ?_) _
      rfl
  | case6 tokens hliteral hvariable hmember hdot hword =>
      rcases tokens with _ | ⟨⟨node, place⟩, rest⟩
      · rfl
      · cases node with
        | word name => exact absurd rfl (hword name place rest)
        | «variable» name => exact absurd rfl (hvariable name place rest)
        | literal quote text => exact absurd rfl (hliteral quote text place rest)
        | _ => rfl

/-! ## §4. Names and order. -/

theorem checkOperand_shift (k : Nat) (operand : Spanned Operand) :
    checkOperand (operand.shift k) = movedBy k id (checkOperand operand) := by
  unfold checkOperand
  rw [show (operand.shift k).node = operand.node from rfl]
  split <;> rfl

/-- Names are taken by arguments wherever these stand. -/
theorem contains_shift (k : Nat) (name : String) (named : Table (Spanned NamedOperand)) :
    (named.map (NamedOperand.shift k)).contains name = named.contains name := by
  unfold Table.contains
  rw [Table.get?_map, Option.isSome_map]

/-- The rules of order apply wherever the arguments stand. -/
theorem arrange_shift (k : Nat) (arguments : List CallArgument) :
    ∀ (positional : List (Spanned Operand)) (named : Table (Spanned NamedOperand)),
      arrange (positional.map (·.shift k)) (named.map (NamedOperand.shift k))
          (arguments.map (·.shift k))
        = movedBy k (Prod.map (List.map (·.shift k)) (Table.map (NamedOperand.shift k)))
            (arrange positional named arguments) := by
  induction arguments with
  | nil =>
      intro positional named
      simp [arrange]
  | cons argument arguments ih =>
      intro positional named
      cases argument with
      | positional operand =>
          show (checkOperand (operand.shift k) >>= fun _ => _) = _
          rw [checkOperand_shift]
          refine movedBy_bind (fun _ => ?_) _
          rw [Table.isEmpty_map]
          split
          · exact ih (operand :: positional) named
          · rfl
      | named argument =>
          show (checkOperand (argument.node.operand.shift k) >>= fun _ => _) = _
          rw [checkOperand_shift]
          refine movedBy_bind (fun _ => ?_) _
          dsimp only
          -- Names have no place, so moving takes none away and makes none alike.
          have hname : (NamedOperand.shift k argument).node.name.node
              = argument.node.name.node := rfl
          rw [hname, contains_shift, ← Table.map_insert]
          split
          · rfl
          · exact ih positional (named.insert _ argument)

/-- The rules on names and order apply wherever the block stands. -/
theorem check_shift (k : Nat) (content : Content) :
    check (content.shift k) = movedBy k (Block.shift k) (check content) := by
  cases content with
  | value v => rfl
  | «variable» name =>
      show (checkOperand (Spanned.shift k ⟨.variable name.node, name.span⟩) >>= fun _ => _) = _
      rw [checkOperand_shift]
      refine movedBy_bind (fun _ => ?_) _
      rfl
  | invocation function arguments =>
      show (arrange [] .empty (arguments.map (·.shift k)) >>= fun _ => _) = _
      have harrange := arrange_shift k arguments [] .empty
      rw [List.map_nil, Table.map_empty] at harrange
      rw [harrange]
      refine movedBy_bind (fun _ => ?_) _
      rfl

/-! ## §5. The whole. -/

/-- **Code is read as the same block wherever it stands**, or refused with the same error there. -/
theorem parse_shift (k : Nat) (code : String) (offset : Nat) :
    Code.parse code (offset + k) = movedBy k (Block.shift k) (Code.parse code offset) := by
  have hlex : lex code.toList (offset + k)
      = movedBy k (List.map (·.shift k)) (lex code.toList offset) :=
    lexFrom_shift k offset none code.toList
  have hsteps : (lex code.toList (offset + k) >>= fun tokens =>
        Code.read (placeBehind (offset + k + code.utf8ByteSize) tokens) tokens >>= check)
      = movedBy k (Block.shift k) (lex code.toList offset >>= fun tokens =>
          Code.read (placeBehind (offset + code.utf8ByteSize) tokens) tokens >>= check) := by
    rw [hlex]
    refine movedBy_bind (fun tokens => ?_) _
    -- The block's end moves with its tokens, and so does the place behind them.
    rw [Nat.add_right_comm, placeBehind_shift, read_shift]
    exact movedBy_bind (check_shift k) _
  show Except.mapError (SyntaxError.inBlock code) (_ >>= fun tokens => _ >>= check) = _
  rw [hsteps]
  unfold Code.parse
  cases (lex code.toList offset >>= fun tokens =>
    Code.read (placeBehind (offset + code.utf8ByteSize) tokens) tokens >>= check) <;> rfl

end Code

end PromptEngine
