/-
  PromptEngine.Proofs.Template.Places — whatever the reading of code points at lies in the code.

  A place of a text is a byte between two of its characters or at one of its ends.  Tokens stand
  between places (`Laid.ends`), and so does all that is made of tokens: the parts of an invocation
  take their bytes from them (`Invocation.MadeOf`, `Code.parts_of_parse`).  An error points at what
  was being read when it was found; for each step of the reading this is shown from the tokens that
  the step is given (`ErrsIn`).

  What is made of tokens also goes forward, from an earlier place to a later one.  So does an error,
  unless the code breaks off: then it goes from the end of the code back over the blanks behind the
  last token (`Span.BackOverBlanks`).

  Main facts: `Code.errsIn_parse` for an error, and `Code.points_of_parse` for a block.
-/
import PromptEngine.Proofs.Template.Layout
import PromptEngine.Proofs.Template.Readings
import PromptEngine.Proofs.Template.Tiling

namespace PromptEngine

/-! ## §1. Places of a text. -/

/-- A byte of a text that begins at byte `start`: it lies between the first byte of the text and
its end, and no character stands across it. -/
def IsPlace (start : Nat) (text : List Char) (pos : Nat) : Prop :=
  start ≤ pos ∧ pos ≤ start + byteSize text ∧ IsBoundary text (pos - start)

/-- Both ends of the span are such bytes. -/
def Span.Ends (P : Nat → Prop) (span : Span) : Prop :=
  P span.start ∧ P span.stop

/-- A place is where some front of the text ends. -/
theorem isPlace_iff {start pos : Nat} {text : List Char} :
    IsPlace start text pos ↔
      ∃ front back, text = front ++ back ∧ pos = start + byteSize front := by
  constructor
  · intro h
    obtain ⟨hle, -, front, back, htext, hpos⟩ := h
    exact ⟨front, back, htext, by omega⟩
  · intro h
    obtain ⟨front, back, rfl, rfl⟩ := h
    refine ⟨Nat.le_add_right _ _, ?_, front, back, rfl, by omega⟩
    rw [byteSize_append]
    omega

namespace IsPlace

variable {start pos : Nat} {text : List Char}

theorem first : IsPlace start text start :=
  isPlace_iff.mpr ⟨[], text, rfl, rfl⟩

theorem last : IsPlace start text (start + byteSize text) :=
  isPlace_iff.mpr ⟨text, [], (List.append_nil text).symm, rfl⟩

/-- A place of the rest of a text is a place of the whole. -/
theorem append {front : List Char} (h : IsPlace (start + byteSize front) text pos) :
    IsPlace start (front ++ text) pos := by
  obtain ⟨between, back, rfl, rfl⟩ := isPlace_iff.mp h
  refine isPlace_iff.mpr ⟨front ++ between, back, by simp, ?_⟩
  rw [byteSize_append, Nat.add_assoc]

/-- A place of a front of a text is a place of the whole. -/
theorem append_right (h : IsPlace start text pos) (more : List Char) :
    IsPlace start (text ++ more) pos := by
  obtain ⟨front, back, rfl, rfl⟩ := isPlace_iff.mp h
  exact isPlace_iff.mpr ⟨front, back ++ more, by simp, rfl⟩

end IsPlace

theorem Span.Ends.imp {P Q : Nat → Prop} {span : Span} (h : span.Ends P)
    (himp : ∀ pos, P pos → Q pos) : span.Ends Q :=
  ⟨himp _ h.1, himp _ h.2⟩

/-- The span goes from one place of the text to a later one. -/
structure Span.Points (start : Nat) (text : List Char) (span : Span) : Prop where
  ends : span.Ends (IsPlace start text)
  forward : span.start < span.stop

/-- From one span to a later one. -/
theorem Span.Points.through {start : Nat} {text : List Char} {first last : Span}
    (hfirst : first.Points start text) (hlast : last.Points start text)
    (hordered : first.stop ≤ last.start) : (first.through last).Points start text where
  ends := ⟨hfirst.ends.1, hlast.ends.2⟩
  forward := by
    show first.start < last.stop
    have hfirst := hfirst.forward
    have hlast := hlast.forward
    omega

/-- The span goes from the end of the text back over blanks. -/
def Span.BackOverBlanks (start : Nat) (text : List Char) (span : Span) : Prop :=
  ∃ front blanks, text = front ++ blanks ∧ (∀ c ∈ blanks, isBlank c = true) ∧
    span = ⟨start + byteSize text, start + byteSize front⟩

theorem Span.BackOverBlanks.ends {start : Nat} {text : List Char} {span : Span}
    (h : span.BackOverBlanks start text) : span.Ends (IsPlace start text) := by
  obtain ⟨front, blanks, rfl, -, rfl⟩ := h
  exact ⟨.last, IsPlace.last.append_right blanks⟩

/-- A token stands between two places. -/
theorem Occupies.ends {start : Nat} {text part : List Char} {span : Span}
    (h : Occupies start text span part) : span.Ends (IsPlace start text) := by
  obtain ⟨front, back, rfl, rfl⟩ := h
  refine ⟨isPlace_iff.mpr ⟨front, part ++ back, by simp, rfl⟩, ?_⟩
  exact isPlace_iff.mpr ⟨front ++ part, back, rfl, rfl⟩

namespace Laid

variable {start : Nat} {text : List Char} {tokens : List (Spanned Token)}

theorem ends (h : Laid start text tokens) :
    ∀ token ∈ tokens, token.span.Ends (IsPlace start text) := by
  intro token htoken
  obtain ⟨part, hpart, -⟩ := h.lexeme token htoken
  exact hpart.ends

theorem points (h : Laid start text tokens) :
    ∀ token ∈ tokens, token.span.Points start text :=
  fun token htoken => ⟨h.ends token htoken, h.nonempty token htoken⟩

/-- What reaches from a token to a later one. -/
theorem points_through (h : Laid start text tokens) :
    tokens.Pairwise fun a b => (a.span.through b.span).Points start text :=
  h.ordered.imp_of_mem fun ha hb hordered =>
    (h.points _ ha).through (h.points _ hb) hordered

/-- Behind the last token there are blanks. -/
theorem blanks_behind {init : List (Spanned Token)} {last : Spanned Token}
    (h : Laid start text (init ++ [last])) :
    ∃ front blanks, text = front ++ blanks ∧ last.span.stop = start + byteSize front ∧
      ∀ c ∈ blanks, isBlank c = true := by
  have hlast : last ∈ init ++ [last] := by simp
  obtain ⟨front, blanks, rfl, hstop⟩ := isPlace_iff.mp (h.ends last hlast).2
  refine ⟨front, blanks, rfl, hstop, fun c hc => ?_⟩
  obtain ⟨before, back, rfl⟩ := List.append_of_mem hc
  refine h.blank (front ++ before) c back (by simp) fun token htoken hcovers => ?_
  -- No token ends later than the last one does.
  have hle : token.span.stop ≤ last.span.stop := by
    rcases List.mem_append.mp htoken with hinit | hsingle
    · have hordered := (List.pairwise_append.mp h.ordered).2.2 token hinit last List.mem_cons_self
      have hforward := h.nonempty last hlast
      omega
    · rw [List.mem_singleton.mp hsingle]
  have hcovered := hcovers.2
  rw [byteSize_append] at hcovered
  omega

end Laid

/-! ## §2. Parts of an invocation. -/

namespace Invocation

/-- A part of an invocation: its function, or one of its arguments. -/
inductive Part where
  | function (callee : Spanned FunctionRef)
  | positional (operand : Spanned Operand)
  | named (argument : Spanned NamedOperand)

namespace Part

/-- Where the part stands. -/
def span : Part → Span
  | .function callee => callee.span
  | .positional operand => operand.span
  | .named argument => argument.span

/-- The places that are kept in the part. -/
def spans : Part → List Span
  | .function callee => [callee.span]
  | .positional operand => [operand.span]
  | .named argument => [argument.span, argument.node.name.span, argument.node.operand.span]

/-- The tokens that the part is written with. -/
def tokens : Part → List Token
  | .function callee => callee.node.tokens
  | .positional operand => [operand.node.token]
  | .named argument => [.word argument.node.name.node, .equals, argument.node.operand.node.token]

/-- The part is what these tokens are read as, and it stands where they do: a named argument and a
function with a collection reach from the first of them to the last. -/
inductive MadeOf : Part → List (Spanned Token) → Prop
  | word (name : String) (span : Span) :
      MadeOf (.function ⟨⟨none, name⟩, span⟩) [⟨.word name, span⟩]
  | member (collection name : String) (first dot last : Span) :
      MadeOf (.function ⟨⟨some collection, name⟩, first.through last⟩)
        [⟨.word collection, first⟩, ⟨.dot, dot⟩, ⟨.word name, last⟩]
  | positional (operand : Spanned Operand) :
      MadeOf (.positional operand) [⟨operand.node.token, operand.span⟩]
  | named (name : Spanned String) (equals : Span) (operand : Spanned Operand) :
      MadeOf (.named ⟨⟨name, operand⟩, name.span.through operand.span⟩)
        [⟨.word name.node, name.span⟩, ⟨.equals, equals⟩, ⟨operand.node.token, operand.span⟩]

end Part

/-- The parts of an invocation in the order of the source: the function, the positional arguments,
and the named ones. -/
def parts (call : Invocation) : List Part :=
  .function call.function :: (call.positional.map .positional ++ call.named.values.map .named)

/-- The parts one after the other are made of these tokens. -/
inductive MadeOf : List Part → List (Spanned Token) → Prop
  | nil : MadeOf [] []
  | cons {part : Part} {parts : List Part} {group tokens : List (Spanned Token)}
      (first : part.MadeOf group) (more : MadeOf parts tokens) :
      MadeOf (part :: parts) (group ++ tokens)

/-- The places that are kept in a part are those of tokens, or reach from one of them to a later
one. -/
theorem Part.MadeOf.forall_spans {Q : Span → Prop} {part : Part} {group : List (Spanned Token)}
    (h : part.MadeOf group) (hgroup : ∀ token ∈ group, Q token.span)
    (hthrough : group.Pairwise fun a b => Q (a.span.through b.span)) :
    ∀ span ∈ part.spans, Q span := by
  cases h with
  | word name span => exact List.forall_mem_singleton.mpr (hgroup _ List.mem_cons_self)
  | member collection name first dot last =>
      have hwhole := (List.pairwise_cons.mp hthrough).1 ⟨.word name, last⟩ (by simp)
      exact List.forall_mem_singleton.mpr hwhole
  | positional operand => exact List.forall_mem_singleton.mpr (hgroup _ List.mem_cons_self)
  | named name equals operand =>
      have hname := hgroup ⟨.word name.node, name.span⟩ (by simp)
      have hoperand := hgroup ⟨operand.node.token, operand.span⟩ (by simp)
      have hwhole :=
        (List.pairwise_cons.mp hthrough).1 ⟨operand.node.token, operand.span⟩ (by simp)
      intro span hspan
      simp only [Part.spans, List.mem_cons, List.not_mem_nil, or_false] at hspan
      rcases hspan with rfl | rfl | rfl
      · exact hwhole
      · exact hname
      · exact hoperand

/-- The tokens of one part stand together among those of the row. -/
theorem MadeOf.exists_infix {parts : List Part} {tokens : List (Spanned Token)}
    (h : MadeOf parts tokens) :
    ∀ part ∈ parts, ∃ group, part.MadeOf group ∧ group <:+: tokens := by
  induction h with
  | nil => exact List.forall_mem_nil _
  | @cons part parts group tokens first _ ih =>
      refine List.forall_mem_cons.mpr ⟨⟨group, first, ⟨[], tokens, rfl⟩⟩, ?_⟩
      intro other hother
      obtain ⟨later, hlater, hwithin⟩ := ih other hother
      exact ⟨later, hlater, hwithin.trans (List.suffix_append group tokens).isInfix⟩

theorem MadeOf.forall_spans {Q : Span → Prop} {parts : List Part}
    {tokens : List (Spanned Token)} (h : MadeOf parts tokens)
    (htokens : ∀ token ∈ tokens, Q token.span)
    (hthrough : tokens.Pairwise fun a b => Q (a.span.through b.span)) :
    ∀ part ∈ parts, ∀ span ∈ part.spans, Q span := by
  intro part hpart
  obtain ⟨group, hgroup, hwithin⟩ := h.exists_infix part hpart
  exact hgroup.forall_spans (fun token htoken => htokens token (hwithin.subset htoken))
    (hthrough.sublist hwithin.sublist)

end Invocation

/-- The places that are kept in a block; only named arguments and invocations keep any. -/
def Block.spans : Block → List Span
  | .namedArgument argument => [argument.name.span, argument.operand.span]
  | .invocation call => call.parts.flatMap Invocation.Part.spans
  | _ => []

/-! ## §3. What is read is made of the tokens. -/

namespace Code

open Invocation (Part)

/-- An argument is a part of the invocation. -/
def CallArgument.part : CallArgument → Part
  | .positional operand => .positional operand
  | .named argument => .named argument

theorem operand?_eq_some {token : Spanned Token} {operand : Spanned Operand}
    (h : operand? token = some operand) : token = ⟨operand.node.token, operand.span⟩ := by
  obtain ⟨node, span⟩ := token
  cases node <;> cases h <;> rfl

/-- **Arguments that are read are made of the tokens.** -/
theorem madeOf_of_readArguments (behind : Span) (here : List Expectation)
    (tokens : List (Spanned Token)) :
    ∀ arguments, readArguments behind here tokens = .ok arguments →
      Invocation.MadeOf (arguments.map (·.part)) tokens := by
  fun_induction readArguments behind here tokens with
  | case1 here =>
      intro arguments h
      cases h
      exact .nil
  | case2 here token rest operand hoperand ih =>
      intro arguments h
      obtain ⟨more, hmore, rfl⟩ := exists_of_map_ok h
      obtain rfl := operand?_eq_some hoperand
      exact .cons (.positional operand) (ih more hmore)
  | case3 here token hword name span value rest hname operand hoperand argument ih =>
      intro arguments h
      obtain ⟨more, hmore, rfl⟩ := exists_of_map_ok h
      obtain rfl := operand?_eq_some hoperand
      obtain ⟨node, place⟩ := token
      subst hname
      exact .cons (.named ⟨name, place⟩ span operand) (ih more hmore)
  | case4 | case5 | case6 | case7 =>
      intro _ h
      cases h

/-- Content that is read is made of the tokens: a variable of one, and an invocation of all. -/
def Content.MadeOf : Content → List (Spanned Token) → Prop
  | .value _, _ => True
  | .variable name, tokens => tokens = [⟨.variable name.node, name.span⟩]
  | .invocation function arguments, tokens =>
    Invocation.MadeOf (.function function :: arguments.map (·.part)) tokens

/-- **Content that is read is made of the tokens.** -/
theorem madeOf_of_read (behind : Span) (tokens : List (Spanned Token)) :
    ∀ content, Code.read behind tokens = .ok content → content.MadeOf tokens := by
  fun_cases Code.read behind tokens with
  | case1 quote text span rest =>
      intro content h
      cases rest with
      | nil =>
          cases h
          trivial
      | cons token rest => cases h
  | case2 name span rest =>
      intro content h
      cases rest with
      | nil =>
          cases h
          rfl
      | cons token rest => cases h
  | case3 collection first dot name last rest =>
      intro content h
      obtain ⟨arguments, harguments, rfl⟩ := exists_of_map_ok h
      have hfirst := Part.MadeOf.member collection name first dot last
      exact .cons hfirst (madeOf_of_readArguments behind _ rest arguments harguments)
  | case5 name span rest hmember hdot =>
      intro content h
      obtain ⟨arguments, harguments, rfl⟩ := exists_of_map_ok h
      have hfirst := Part.MadeOf.word name span
      exact .cons hfirst (madeOf_of_readArguments behind _ rest arguments harguments)
  | case4 | case6 =>
      intro _ h
      cases h

/-- The parts of an invocation that keeps the rules are those that were read. -/
theorem parts_of_check {content : Content} {call : Invocation}
    (h : check content = .ok (.invocation call)) :
    ∃ function arguments, content = .invocation function arguments ∧
      call.parts = .function function :: arguments.map (·.part) := by
  obtain ⟨_, -, hcall⟩ | ⟨_, -, hcall, -⟩ |
    ⟨function, arguments, positional, table, rfl, hcall, harrange⟩ := check_cases h
  · contradiction
  · contradiction
  · obtain rfl := Block.invocation.inj hcall
    obtain ⟨operands, named, rfl, hsorted, -, -, hnames⟩ := exists_of_arrange_empty harrange
    obtain ⟨rfl, rfl⟩ := Prod.mk.inj hsorted
    refine ⟨function, _, rfl, ?_⟩
    simp [Invocation.parts, CallArgument.part, Function.comp_def,
      NamedOperand.values_ofList hnames]

/-- **The parts of an invocation that is read are made of the tokens of its code.** -/
theorem parts_of_parse {code : String} {offset : Nat} {call : Invocation}
    (h : Code.parse code offset = .ok (.invocation call)) :
    ∃ tokens, Laid offset code.toList tokens ∧ Invocation.MadeOf call.parts tokens := by
  obtain ⟨tokens, content, hlex, hread, hcheck⟩ := parse_eq_ok_iff.mp h
  obtain ⟨function, arguments, rfl, hparts⟩ := parts_of_check hcheck
  refine ⟨tokens, lexFrom_eq_ok_iff_laid.mp hlex, ?_⟩
  rw [hparts]
  exact madeOf_of_read _ tokens _ hread

/-- **All places that are kept in a block are places of its code.** -/
theorem points_of_parse {code : String} {offset : Nat} {block : Block}
    (h : Code.parse code offset = .ok block) :
    ∀ span ∈ block.spans, span.Points offset code.toList := by
  cases block with
  | invocation call =>
      obtain ⟨tokens, hlaid, hmade⟩ := parts_of_parse h
      intro span hspan
      obtain ⟨part, hpart, hmem⟩ := List.mem_flatMap.mp hspan
      exact hmade.forall_spans hlaid.points hlaid.points_through part hpart span hmem
  | text _ => exact List.forall_mem_nil _
  | value _ => exact List.forall_mem_nil _
  | «variable» _ => exact List.forall_mem_nil _
  | namedArgument _ => exact absurd rfl (kind_of_parse h).2

end Code

/-! ## §4. Errors. -/

/-- If the result is an error, its span is such a span. -/
def ErrsIn {α : Type} (Q : Span → Prop) (result : Except SyntaxError α) : Prop :=
  ∀ e, result = .error e → Q e.span

namespace ErrsIn

variable {α β : Type} {Q : Span → Prop} {result : Except SyntaxError α}

theorem ok (a : α) : ErrsIn Q (.ok a) := by
  intro e h
  cases h

theorem error {e : SyntaxError} (h : Q e.span) : ErrsIn Q (.error e : Except SyntaxError α) := by
  intro e' he
  cases he
  exact h

/-- The second step is only taken with what the first one gives. -/
theorem bind {next : α → Except SyntaxError β} (h : ErrsIn Q result)
    (hnext : ∀ a, result = .ok a → ErrsIn Q (next a)) : ErrsIn Q (result >>= next) := by
  cases result with
  | ok a => exact hnext a rfl
  | error e => exact error (h e rfl)

theorem map (h : ErrsIn Q result) (f : α → β) : ErrsIn Q (result.map f) := by
  cases result with
  | ok a => exact ok (f a)
  | error e => exact error (h e rfl)

theorem inBlock (h : ErrsIn Q result) (code : String) :
    ErrsIn Q (result.mapError (SyntaxError.inBlock code)) := by
  cases result with
  | ok a => exact ok a
  | error e => exact error (h e rfl)

end ErrsIn

/-! ## §5. Errors of the lexer. -/

/-- A literal that is not closed reaches to a place of the text. -/
theorem Literal.exists_openReach (text : List Char) :
    ∃ front back, text = front ++ back ∧ Literal.openReach text = byteSize front := by
  fun_induction Literal.openReach text with
  | case1 => exact ⟨[], [], rfl, rfl⟩
  | case2 c rest ih =>
      obtain ⟨front, back, htext, hreach⟩ := ih
      refine ⟨'\\' :: c :: front, back, by rw [htext]; rfl, ?_⟩
      rw [hreach, byteSize_cons, byteSize_cons, ← Nat.add_assoc]
      rfl
  | case3 c rest hpair ih =>
      by_cases hback : c = '\\'
      · -- A backslash is read alone only at the end of the text, and then it does not count.
        subst hback
        cases rest with
        | nil => exact ⟨[], ['\\'], rfl, rfl⟩
        | cons d rest => exact absurd rfl (hpair d rest rfl)
      · obtain ⟨front, back, htext, hreach⟩ := ih
        refine ⟨c :: front, back, by rw [htext]; rfl, ?_⟩
        rw [hreach, if_neg (by simpa using hback), byteSize_cons]

/-- What begins no token covers a front of the text. -/
theorem Token.exists_front_of_fault {c : Char} {text : List Char} {fault : SyntaxFault}
    {width : Nat} (h : Token.read c text = .fault fault width) :
    ∃ front back, c :: text = front ++ back ∧ width = byteSize front := by
  have literal : ∀ quote : Quote, readLiteral quote text = .fault fault width →
      ∃ front back, quote.char :: text = front ++ back ∧ width = byteSize front := by
    intro quote hread
    unfold readLiteral at hread
    split at hread
    · cases hread
    · cases hread
      obtain ⟨front, back, htext, hreach⟩ := Literal.exists_openReach text
      refine ⟨quote.char :: front, back, by rw [htext]; rfl, ?_⟩
      rw [hreach, byteSize_cons, Quote.utf8Size_char]
  unfold Token.read at h
  split at h
  · cases h
  split at h
  · cases h
  split at h
  · cases h
  split at h
  · next hc =>
    obtain rfl := beq_iff_eq.mp hc
    exact literal .single h
  split at h
  · next hc =>
    obtain rfl := beq_iff_eq.mp hc
    exact literal .double h
  split at h
  · cases h
  · cases h
    exact ⟨[c], text, rfl, rfl⟩

/-- Two tokens in touch are pointed at from the start of the first to the end of the second. -/
theorem exists_of_touching {last : Option (Spanned Token)} {next : Spanned Token} {span : Span}
    (h : touching last next = some span) :
    ∃ token ∈ last, span = token.span.through next.span := by
  cases last with
  | none => cases h
  | some token =>
      unfold touching at h
      dsimp only at h
      split at h
      · cases h
        exact ⟨token, rfl, rfl⟩
      · cases h

/-- **An error of the lexer goes from one place of the text to another**, or from the start of the
token before. -/
theorem errsIn_lexFrom {Q : Span → Prop} (pos : Nat) (last : Option (Spanned Token))
    (text : List Char)
    (hlast : ∀ token ∈ last, ∀ p, IsPlace pos text p → Q ⟨token.span.start, p⟩)
    (htext : ∀ p q, IsPlace pos text p → IsPlace pos text q → p ≤ q → Q ⟨p, q⟩) :
    ErrsIn Q (lexFrom pos last text) := by
  fun_induction lexFrom pos last text with
  | case1 => exact .ok []
  | case2 pos last c text hblank ih =>
      have hmore : ∀ p, IsPlace (pos + 1) text p → IsPlace pos (c :: text) p := by
        intro p hp
        rw [← byteSize_of_isBlank hblank] at hp
        exact hp.append
      exact ih (fun token htoken p hp => hlast token htoken p (hmore p hp))
        fun p q hp hq => htext p q (hmore p hp) (hmore q hq)
  | case3 pos last c text _ fault width hread =>
      obtain ⟨front, back, heq, rfl⟩ := Token.exists_front_of_fault hread
      refine .error (htext pos _ .first ?_ (Nat.le_add_right _ _))
      rw [heq]
      exact IsPlace.last.append_right back
  | case4 pos last c text _ token width rest hread next span htouch =>
      obtain ⟨front, -, heq, rfl, -⟩ := Token.spelt_of_read hread
      obtain ⟨before, hbefore, rfl⟩ := exists_of_touching htouch
      refine .error (hlast before hbefore _ ?_)
      rw [heq]
      exact IsPlace.last.append_right rest
  | case5 pos last c text _ token width rest hread next _ ih =>
      obtain ⟨front, -, heq, rfl, -⟩ := Token.spelt_of_read hread
      rw [heq] at htext
      refine (ih ?_ fun p q hp hq => htext p q hp.append hq.append).map _
      intro before hbefore p hp
      obtain rfl := Option.some.inj hbefore
      refine htext pos p .first hp.append ?_
      have hle := hp.1
      omega

/-! ## §6. Errors of the grammar. -/

namespace Code

variable {Q : Span → Prop}

/-- Behind the tokens of a code there are blanks up to its end. -/
theorem backOverBlanks_placeBehind {start : Nat} {text : List Char}
    {tokens : List (Spanned Token)} (h : Laid start text tokens) :
    (placeBehind (start + byteSize text) tokens).BackOverBlanks start text := by
  unfold placeBehind
  cases hlast : tokens.getLast? with
  | none => exact ⟨text, [], (List.append_nil text).symm, List.forall_mem_nil _, rfl⟩
  | some last =>
      obtain ⟨init, rfl⟩ := List.getLast?_eq_some_iff.mp hlast
      obtain ⟨front, blanks, htext, hstop, hblanks⟩ := h.blanks_behind
      exact ⟨front, blanks, htext, hblanks, congrArg (Span.mk _) hstop⟩

/-- The grammar fails at a token or behind all of them. -/
theorem errsIn_unexpectedAt {α : Type} {behind : Span} (hbehind : Q behind)
    (rest : List (Spanned Token)) (expected : List Expectation)
    (hrest : ∀ token ∈ rest, Q token.span) :
    ErrsIn Q (.error (unexpectedAt behind rest expected) : Except SyntaxError α) := by
  cases rest with
  | nil => exact .error hbehind
  | cons token rest => exact .error (hrest token List.mem_cons_self)

theorem errsIn_readArguments {behind : Span} (hbehind : Q behind) (here : List Expectation)
    (tokens : List (Spanned Token)) (htokens : ∀ token ∈ tokens, Q token.span) :
    ErrsIn Q (readArguments behind here tokens) := by
  fun_induction readArguments behind here tokens with
  | case1 => exact .ok []
  | case2 here token rest operand hoperand ih =>
      exact (ih (List.forall_mem_cons.mp htokens).2).map _
  | case3 here token hword name span value rest hname operand hoperand argument ih =>
      refine (ih ?_).map _
      intro other hother
      exact htokens other (by simp [hother])
  | case4 here token hword name span value rest hname hoperand =>
      apply errsIn_unexpectedAt hbehind
      intro other hother
      exact htokens other (List.mem_cons_of_mem _ (List.mem_cons_of_mem _ hother))
  | case5 => exact errsIn_unexpectedAt hbehind _ _ (List.forall_mem_nil _)
  | case6 => exact errsIn_unexpectedAt hbehind _ _ (List.forall_mem_cons.mp htokens).2
  | case7 => exact errsIn_unexpectedAt hbehind _ _ htokens

theorem errsIn_readAlone {behind : Span} (hbehind : Q behind) (content : Content)
    (rest : List (Spanned Token)) (hrest : ∀ token ∈ rest, Q token.span) :
    ErrsIn Q (readAlone behind content rest) := by
  cases rest with
  | nil => exact .ok content
  | cons token rest => exact errsIn_unexpectedAt hbehind (token :: rest) _ hrest

/-- **An error of the grammar points at tokens or behind them.** -/
theorem errsIn_read {behind : Span} (hbehind : Q behind) (tokens : List (Spanned Token))
    (htokens : ∀ token ∈ tokens, Q token.span) : ErrsIn Q (Code.read behind tokens) := by
  fun_cases Code.read behind tokens with
  | case1 => exact errsIn_readAlone hbehind _ _ (List.forall_mem_cons.mp htokens).2
  | case2 => exact errsIn_readAlone hbehind _ _ (List.forall_mem_cons.mp htokens).2
  | case3 collection first dot name last rest =>
      refine (errsIn_readArguments hbehind _ rest ?_).map _
      intro other hother
      exact htokens other (by simp [hother])
  | case4 collection first dot rest =>
      apply errsIn_unexpectedAt hbehind
      intro other hother
      exact htokens other (by simp [hother])
  | case5 => exact (errsIn_readArguments hbehind _ _ (List.forall_mem_cons.mp htokens).2).map _
  | case6 => exact errsIn_unexpectedAt hbehind _ _ htokens

theorem errsIn_checkOperand {operand : Spanned Operand} (h : Q operand.span) :
    ErrsIn Q (checkOperand operand) := by
  unfold checkOperand
  split
  · exact .error h
  · exact .ok ()

/-- The rules of order point at arguments. -/
theorem errsIn_arrange (arguments : List CallArgument)
    (h : ∀ argument ∈ arguments, ∀ span ∈ argument.part.spans, Q span) :
    ∀ positional named, ErrsIn Q (arrange positional named arguments) := by
  induction arguments with
  | nil => exact fun positional named => .ok _
  | cons argument arguments ih =>
      obtain ⟨hargument, harguments⟩ := List.forall_mem_cons.mp h
      intro positional named
      cases argument with
      | positional operand =>
          have hspan : Q operand.span := hargument _ List.mem_cons_self
          refine (errsIn_checkOperand hspan).bind fun _ _ => ?_
          split
          · exact ih harguments (operand :: positional) named
          · exact .error hspan
      | named argument =>
          have hspan : Q argument.span := hargument _ List.mem_cons_self
          have hoperand : Q argument.node.operand.span :=
            hargument _ (by simp [CallArgument.part, Invocation.Part.spans])
          refine (errsIn_checkOperand hoperand).bind fun _ _ => ?_
          dsimp only
          split
          · exact .error hspan
          · exact ih harguments positional (named.insert _ argument)

/-- **The rules on names and order point at tokens**, or from one to a later one, if the content is
made of these. -/
theorem errsIn_check {content : Content} {tokens : List (Spanned Token)}
    (h : content.MadeOf tokens) (htokens : ∀ token ∈ tokens, Q token.span)
    (hthrough : tokens.Pairwise fun a b => Q (a.span.through b.span)) :
    ErrsIn Q (check content) := by
  cases content with
  | value v => exact .ok _
  | «variable» name =>
      obtain rfl : tokens = [⟨.variable name.node, name.span⟩] := h
      have hname : Q name.span := htokens _ List.mem_cons_self
      exact (errsIn_checkOperand hname).bind fun _ _ => .ok _
  | invocation function arguments =>
      refine (errsIn_arrange arguments ?_ [] .empty).bind fun _ _ => .ok _
      intro argument hargument
      have hmade : Invocation.MadeOf (.function function :: arguments.map (·.part)) tokens := h
      exact hmade.forall_spans htokens hthrough _
        (List.mem_cons_of_mem _ (List.mem_map_of_mem hargument))

/-! ## §7. The whole. -/

/-- **An error in code points at places of the code**, and forward, unless it points from the end of
the code back over blanks. -/
theorem errsIn_parse (code : String) (offset : Nat) :
    ErrsIn (fun span => span.Ends (IsPlace offset code.toList) ∧
      (span.start ≤ span.stop ∨ span.BackOverBlanks offset code.toList))
      (Code.parse code offset) := by
  have hpoints : ∀ {span : Span}, span.Points offset code.toList →
      span.Ends (IsPlace offset code.toList) ∧
        (span.start ≤ span.stop ∨ span.BackOverBlanks offset code.toList) :=
    fun h => ⟨h.ends, .inl (Nat.le_of_lt h.forward)⟩
  refine ErrsIn.inBlock ?_ code
  refine ErrsIn.bind ?_ fun tokens htokens => ?_
  · exact errsIn_lexFrom offset none code.toList (by simp) fun p q hp hq hle =>
      ⟨⟨hp, hq⟩, .inl hle⟩
  have hlaid := lexFrom_eq_ok_iff_laid.mp htokens
  -- What is missing at the end of the code is missed behind its last token.
  have hbehind : (placeBehind (offset + code.utf8ByteSize) tokens).BackOverBlanks offset
      code.toList := by
    rw [← byteSize_toList]
    exact backOverBlanks_placeBehind hlaid
  refine ErrsIn.bind ?_ fun content hcontent => ?_
  · exact errsIn_read ⟨hbehind.ends, .inr hbehind⟩ tokens fun token htoken =>
      hpoints (hlaid.points token htoken)
  · exact errsIn_check (madeOf_of_read _ tokens content hcontent)
      (fun token htoken => hpoints (hlaid.points token htoken)) (hlaid.points_through.imp hpoints)

end Code

end PromptEngine
