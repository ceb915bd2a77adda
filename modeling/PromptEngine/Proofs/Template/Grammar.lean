/-
  PromptEngine.Proofs.Template.Grammar — the grammar accepts the tokens of every block.

  The grammar works on tokens that carry places.  The facts here are about the tokens alone:
  `Reads` says which rows of tokens can be read, and as which bare block; if a row can, wherever
  its tokens stand, then reading and checking it succeeds and gives that block.  Steps: the
  arguments (`readArguments_tokens`), the content (`read_call`), the rules of names and order
  (`arrange_arguments`), the whole (`read_of_reads`, `parse_of_tokens`).  Where the block ends
  matters to its errors only (`read_behind`).
-/
import PromptEngine.Proofs.Table
import PromptEngine.Proofs.Template.Lexing

namespace PromptEngine

/-! ## §1. Readings. -/

/-- A variable has to have a name; a literal may hold any text. -/
def Operand.Named : Operand → Prop
  | .value _ => True
  | .variable name => name ≠ ""

theorem Operand.WellFormed.named {operand : Operand} (h : operand.WellFormed) : operand.Named := by
  cases operand with
  | value _ => trivial
  | «variable» name =>
    rintro rfl
    exact absurd h (show ¬ isIdentifier "" = true by decide)

/-- The rules for the arguments of a call: variables have names, and the names of named arguments
are distinct. -/
structure BareCall.Regular (call : BareCall) : Prop where
  positional : ∀ operand ∈ call.positional, operand.Named
  named : ∀ argument ∈ call.named, argument.2.Named
  distinct : (call.named.map Prod.fst).Nodup

theorem BareCall.WellFormed.regular {call : BareCall} (h : call.WellFormed) : call.Regular where
  positional operand hmem := (h.positional operand hmem).named
  named argument hmem := (h.named argument hmem).2.named
  distinct := h.distinct

/-- The positional arguments are spelled in front of the named ones. -/
theorem BareCall.tokens_arguments (call : BareCall) :
    call.arguments.flatMap (·.tokens)
      = call.positional.map Operand.token ++
        call.named.flatMap fun (name, operand) => [.word name, .equals, operand.token] := by
  rw [arguments, List.flatMap_append, List.flatMap_map, List.flatMap_map]
  congr 1
  exact List.map_eq_flatMap.symm

/-- A named argument under its own name. -/
def NamedOperand.entry (argument : Spanned NamedOperand) : String × Spanned NamedOperand :=
  (argument.node.name.node, argument)

theorem NamedOperand.names_map_entry (arguments : List (Spanned NamedOperand)) :
    Entries.names (arguments.map entry) = arguments.map (·.node.name.node) := by
  unfold Entries.names
  rw [List.map_map]
  rfl

/-- Each named argument of the invocation stands under its own name. -/
def Invocation.Keyed (call : Invocation) : Prop :=
  ∀ entry ∈ call.named.entries, entry.1 = entry.2.node.name.node

/-- Under distinct names no argument is lost, and the order stays. -/
theorem NamedOperand.entries_ofList {arguments : List (Spanned NamedOperand)}
    (h : (arguments.map (·.node.name.node)).Nodup) :
    (Table.ofList (arguments.map entry)).entries = arguments.map entry := by
  rw [← names_map_entry] at h
  exact Table.entries_insertAll (t := .empty) h fun _ _ => List.not_mem_nil

theorem NamedOperand.values_ofList {arguments : List (Spanned NamedOperand)}
    (h : (arguments.map (·.node.name.node)).Nodup) :
    (Table.ofList (arguments.map entry)).values = arguments := by
  rw [Table.values, entries_ofList h, List.map_map]
  exact List.map_id arguments

namespace Invocation.Keyed

variable {call : Invocation}

theorem names_eq (h : call.Keyed) :
    call.named.values.map (·.node.name.node) = call.named.names :=
  Table.map_values h

end Invocation.Keyed

namespace Code

/-- The tokens can be read as the block: as one literal, as one variable, or as a reference to a
function with positional arguments and named arguments behind them. -/
inductive Reads : List Token → BareBlock → Prop
  | value (quote : Quote) (text : String) : Reads [.literal quote text] (.value ⟨text, quote⟩)
  | variable {name : String} (h : name ≠ "") : Reads [.variable name] (.variable name)
  | call {call : BareCall} (h : call.Regular) :
      Reads (call.function.tokens ++ (call.positional.map Operand.token ++
        call.named.flatMap fun (name, operand) => [.word name, .equals, operand.token]))
        (.call call)

/-- The tokens of a well-formed code block can be read as this block. -/
theorem reads_tokens {block : BareBlock} (h : block.WellFormed) (hcode : ¬ block.IsText) :
    Reads block.tokens block := by
  cases block with
  | text t => exact absurd trivial hcode
  | value v => exact .value v.quote v.value
  | «variable» name =>
    have hnamed : (Operand.variable name).Named := Operand.WellFormed.named h
    exact .variable hnamed
  | argument name operand => exact h.elim
  | call c =>
    show Reads (c.function.tokens ++ c.arguments.flatMap (·.tokens)) _
    rw [c.tokens_arguments]
    exact .call (BareCall.WellFormed.regular h)

/-- An argument without its place. -/
def CallArgument.bare : CallArgument → BareArgument
  | .positional operand => .positional operand.node
  | .named argument => .named argument.node.name.node argument.node.operand.node

/-! ## §2. Arguments. -/

theorem operand?_of_token {token : Spanned Token} {operand : Operand}
    (h : token.node = operand.token) : operand? token = some ⟨operand, token.span⟩ := by
  unfold operand?
  rw [h]
  cases operand <;> rfl

/-- A token that spells an operand is a positional argument. -/
theorem readArguments_positional {token : Spanned Token} {operand : Operand}
    (h : token.node = operand.token) (behind : Span) (here : List Expectation)
    (rest : List (Spanned Token)) :
    readArguments behind here (token :: rest)
      = (readArguments behind [.endOfBlock] rest).map (.positional ⟨operand, token.span⟩ :: ·) := by
  rw [readArguments.eq_def]
  simp only [operand?_of_token h]

/-- A word, an equals sign and a token that spells an operand are a named argument. -/
theorem readArguments_named {name equals token : Spanned Token} {word : String}
    {operand : Operand} (hname : name.node = .word word) (hequals : equals.node = .equals)
    (h : token.node = operand.token) (behind : Span) (here : List Expectation)
    (rest : List (Spanned Token)) :
    ∃ argument : Spanned NamedOperand, argument.node.bare = (word, operand) ∧
      readArguments behind here (name :: equals :: token :: rest)
        = (readArguments behind [.endOfBlock] rest).map (.named argument :: ·) := by
  obtain ⟨_, nameSpan⟩ := name
  obtain ⟨_, equalsSpan⟩ := equals
  subst hname hequals
  refine ⟨⟨⟨⟨word, nameSpan⟩, ⟨operand, token.span⟩⟩, nameSpan.through token.span⟩, rfl, ?_⟩
  -- A word spells no operand, so the reader looks for the equals sign behind it.
  have hword : operand? ⟨.word word, nameSpan⟩ = none := rfl
  rw [readArguments.eq_def]
  simp only [hword, operand?_of_token h]

/-- **The tokens of arguments are read as these arguments.** -/
theorem readArguments_tokens (behind : Span) :
    ∀ (arguments : List BareArgument) (here : List Expectation) (tokens : List (Spanned Token)),
      tokens.map (·.node) = arguments.flatMap (·.tokens) →
      ∃ read, readArguments behind here tokens = .ok read ∧ read.map (·.bare) = arguments
  | [], here, tokens, h => by
      rw [List.flatMap_nil, List.map_eq_nil_iff] at h
      subst h
      exact ⟨[], by rw [readArguments], rfl⟩
  | .positional operand :: arguments, here, tokens, h => by
      rw [List.flatMap_cons] at h
      obtain ⟨token, rest, rfl, hnode, hrest⟩ := List.map_eq_cons_iff.1 h
      obtain ⟨read, hread, hbare⟩ := readArguments_tokens behind arguments [.endOfBlock] rest hrest
      refine ⟨.positional ⟨operand, token.span⟩ :: read, ?_, ?_⟩
      · rw [readArguments_positional hnode, hread]
        rfl
      · rw [List.map_cons, hbare]
        rfl
  | .named word operand :: arguments, here, tokens, h => by
      rw [List.flatMap_cons] at h
      obtain ⟨name, rest, rfl, hname, hrest⟩ := List.map_eq_cons_iff.1 h
      obtain ⟨equals, rest, rfl, hequals, hrest⟩ := List.map_eq_cons_iff.1 hrest
      obtain ⟨token, rest, rfl, hnode, hrest⟩ := List.map_eq_cons_iff.1 hrest
      obtain ⟨read, hread, hbare⟩ := readArguments_tokens behind arguments [.endOfBlock] rest hrest
      obtain ⟨argument, harg, hstep⟩ :=
        readArguments_named hname hequals hnode behind here rest
      refine ⟨.named argument :: read, ?_, ?_⟩
      · rw [hstep, hread]
        rfl
      · cases harg
        rw [List.map_cons, hbare]
        rfl

/-! ## §3. The content of a block. -/

/-- Arguments do not begin with a dot. -/
theorem head_arguments_ne_dot (arguments : List BareArgument) (token : Token)
    (rest : List Token) (h : arguments.flatMap (·.tokens) = token :: rest) : token ≠ .dot := by
  cases arguments with
  | nil => cases h
  | cons argument arguments =>
    rw [List.flatMap_cons] at h
    rintro rfl
    rcases argument with operand | ⟨name, operand⟩
    · cases operand <;> cases h
    · cases h

/-- **The tokens of a call are read as this call.** -/
theorem read_call (behind : Span) (function : FunctionRef) (arguments : List BareArgument)
    (tokens : List (Spanned Token))
    (h : tokens.map (·.node) = function.tokens ++ arguments.flatMap (·.tokens)) :
    ∃ spanned read, Code.read behind tokens = .ok (.invocation spanned read) ∧
      spanned.node = function ∧ read.map (·.bare) = arguments := by
  obtain ⟨collection, name⟩ := function
  cases collection with
  | some collection =>
    obtain ⟨first, rest, rfl, hfirst, hrest⟩ := List.map_eq_cons_iff.1 h
    obtain ⟨dot, rest, rfl, hdot, hrest⟩ := List.map_eq_cons_iff.1 hrest
    obtain ⟨last, rest, rfl, hlast, hrest⟩ := List.map_eq_cons_iff.1 hrest
    obtain ⟨read, hread, hbare⟩ := readArguments_tokens behind arguments [.endOfBlock] rest hrest
    obtain ⟨_, firstSpan⟩ := first
    obtain ⟨_, dotSpan⟩ := dot
    obtain ⟨_, lastSpan⟩ := last
    subst hfirst hdot hlast
    refine ⟨⟨⟨some collection, name⟩, firstSpan.through lastSpan⟩, read, ?_, rfl, hbare⟩
    rw [Code.read, hread]
    rfl
  | none =>
    obtain ⟨word, rest, rfl, hword, hrest⟩ := List.map_eq_cons_iff.1 h
    obtain ⟨read, hread, hbare⟩ :=
      readArguments_tokens behind arguments [.token .dot, .endOfBlock] rest hrest
    obtain ⟨_, wordSpan⟩ := word
    subst hword
    refine ⟨⟨⟨none, name⟩, wordSpan⟩, read, ?_, rfl, hbare⟩
    -- The branches before this one ask for a dot, and no argument begins with one.
    cases rest with
    | nil =>
      rw [Code.read, hread] <;> simp [Except.map]
    | cons token rest =>
      have hdot : token.node ≠ .dot :=
        head_arguments_ne_dot arguments token.node (rest.map (·.node))
          (by simpa using hrest.symm)
      obtain ⟨node, span⟩ := token
      rw [Code.read, hread]
      · rfl
      · rintro _ _ _ _ ⟨⟩
        exact hdot rfl
      · rintro _ _ ⟨⟩
        exact hdot rfl

/-! ## §4. Names and order. -/

theorem checkOperand_ok {operand : Spanned Operand} (h : operand.node.Named) :
    checkOperand operand = .ok () := by
  unfold checkOperand
  split
  · next hname =>
    rw [hname] at h
    exact absurd rfl h
  · rfl

/-- Positional arguments that stand first are kept. -/
theorem arrange_positional :
    ∀ (operands positional : List (Spanned Operand)) (rest : List CallArgument),
      (∀ operand ∈ operands, operand.node.Named) →
      arrange positional .empty (operands.map .positional ++ rest)
        = arrange (operands.reverse ++ positional) .empty rest
  | [], positional, rest, _ => rfl
  | operand :: operands, positional, rest, h => by
      rw [List.map_cons, List.cons_append, arrange,
        checkOperand_ok (h operand List.mem_cons_self)]
      show arrange (operand :: positional) .empty (operands.map .positional ++ rest) = _
      rw [arrange_positional operands (operand :: positional) rest
        (fun o ho => h o (List.mem_cons_of_mem _ ho))]
      simp

/-- Named arguments with new names are kept, each under its own. -/
theorem arrange_named (positional : List (Spanned Operand)) :
    ∀ (arguments : List (Spanned NamedOperand)) (named : Table (Spanned NamedOperand)),
      (∀ argument ∈ arguments, argument.node.operand.node.Named) →
      (named.names ++ arguments.map (·.node.name.node)).Nodup →
      arrange positional named (arguments.map .named)
        = .ok (positional.reverse, named.insertAll (arguments.map NamedOperand.entry))
  | [], named, _, _ => rfl
  | argument :: arguments, named, h, hnodup => by
      -- The names seen so far and the names still to come have nothing in common.
      have hnew : argument.node.name.node ∉ named.names := by
        intro hmem
        exact (List.nodup_append.1 hnodup).2.2 _ hmem _ List.mem_cons_self rfl
      have hnodup' : ((named.insert argument.node.name.node argument).names ++
          arguments.map (·.node.name.node)).Nodup := by
        rw [Table.names_insert, if_neg hnew]
        simpa using hnodup
      rw [List.map_cons, arrange, checkOperand_ok (h argument List.mem_cons_self)]
      show (if named.contains argument.node.name.node then _
        else arrange positional (named.insert _ argument) (arguments.map .named)) = _
      rw [if_neg (by rwa [Table.contains_iff_mem_names]),
        arrange_named positional arguments _ (fun a ha => h a (List.mem_cons_of_mem _ ha)) hnodup']
      rfl

/-- Arguments that are bare positional ones are positional ones. -/
theorem positional_of_bare :
    ∀ (operands : List Operand) (read : List CallArgument),
      read.map (·.bare) = operands.map .positional →
      ∃ spanned : List (Spanned Operand),
        read = spanned.map .positional ∧ spanned.map (·.node) = operands
  | [], read, h => ⟨[], by simpa using h, rfl⟩
  | operand :: operands, read, h => by
      obtain ⟨argument, rest, rfl, hbare, hrest⟩ := List.map_eq_cons_iff.1 h
      obtain ⟨spanned, rfl, hmap⟩ := positional_of_bare operands rest hrest
      cases argument with
      | positional first =>
        refine ⟨first :: spanned, rfl, ?_⟩
        cases hbare
        rw [List.map_cons, hmap]
      | named _ => cases hbare

/-- Arguments that are bare named ones are named ones. -/
theorem named_of_bare :
    ∀ (arguments : List (String × Operand)) (read : List CallArgument),
      read.map (·.bare) = (arguments.map fun (name, operand) => .named name operand) →
      ∃ spanned : List (Spanned NamedOperand),
        read = spanned.map .named ∧ spanned.map (·.node.bare) = arguments
  | [], read, h => ⟨[], by simpa using h, rfl⟩
  | (name, operand) :: arguments, read, h => by
      obtain ⟨argument, rest, rfl, hbare, hrest⟩ := List.map_eq_cons_iff.1 h
      obtain ⟨spanned, rfl, hmap⟩ := named_of_bare arguments rest hrest
      cases argument with
      | positional _ => cases hbare
      | named first =>
        refine ⟨first :: spanned, rfl, ?_⟩
        cases hbare
        rw [List.map_cons, hmap]
        rfl

/-- **The arguments of a regular call keep the rules of names and order.** -/
theorem arrange_arguments {call : BareCall} (h : call.Regular) {read : List CallArgument}
    (hread : read.map (·.bare) = call.arguments) :
    ∃ positional named, arrange [] .empty read = .ok (positional, named) ∧
      positional.map (·.node) = call.positional ∧
      named.values.map (·.node.bare) = call.named := by
  -- The row splits where the named arguments begin, and each part keeps its kind.
  obtain ⟨front, back, rfl, hfront, hback⟩ := List.map_eq_append_iff.1 hread
  obtain ⟨positional, rfl, hpos⟩ := positional_of_bare call.positional front hfront
  obtain ⟨named, rfl, hnamed⟩ := named_of_bare call.named back hback
  have hoperands : ∀ operand ∈ positional, operand.node.Named := fun operand hmem =>
    h.positional operand.node (hpos ▸ List.mem_map_of_mem hmem)
  have harguments : ∀ argument ∈ named, argument.node.operand.node.Named := fun argument hmem =>
    h.named argument.node.bare (hnamed ▸ List.mem_map_of_mem hmem)
  have hnodup : (named.map (·.node.name.node)).Nodup := by
    have := h.distinct
    rwa [← hnamed, List.map_map] at this
  refine ⟨positional, .ofList (named.map NamedOperand.entry), ?_, hpos, ?_⟩
  · rw [arrange_positional positional [] _ hoperands,
      arrange_named _ named .empty harguments (by simpa using hnodup), List.append_nil,
      List.reverse_reverse]
    rfl
  · rw [NamedOperand.values_ofList hnodup, hnamed]

/-! ## §5. The end of the block. -/

theorem exists_of_map_ok {α β : Type} {result : Except SyntaxError α} {f : α → β} {b : β}
    (h : result.map f = .ok b) : ∃ a, result = .ok a ∧ f a = b := by
  cases result with
  | error e => cases h
  | ok a => exact ⟨a, rfl, Except.ok.inj h⟩

theorem map_ok_imp {α β : Type} {result result' : Except SyntaxError α} {f : α → β}
    (h : ∀ a, result = .ok a → result' = .ok a) (b : β) (hmap : result.map f = .ok b) :
    result'.map f = .ok b := by
  obtain ⟨a, ha, rfl⟩ := exists_of_map_ok hmap
  rw [h a ha]
  rfl

/-- The place behind the tokens matters to errors only. -/
theorem readArguments_behind (behind behind' : Span) (here : List Expectation)
    (tokens : List (Spanned Token)) :
    ∀ arguments, readArguments behind here tokens = .ok arguments →
      readArguments behind' here tokens = .ok arguments := by
  fun_induction readArguments behind here tokens with
  | case1 here => exact fun arguments h => by rw [readArguments, h]
  | case2 here token rest operand hoperand ih =>
      intro arguments h
      rw [readArguments.eq_def]
      simp only [hoperand]
      exact map_ok_imp ih arguments h
  | case3 here token hword name span value rest hname operand hoperand argument ih =>
      intro arguments h
      rw [readArguments.eq_def]
      simp only [hword, hname, hoperand]
      exact map_ok_imp ih arguments h
  | case4 =>
      intro _ h
      cases h
  | case5 =>
      intro _ h
      cases h
  | case6 =>
      intro _ h
      cases h
  | case7 =>
      intro _ h
      cases h

/-- Tokens that are read are read as the same content wherever the block ends. -/
theorem read_behind (behind behind' : Span) (tokens : List (Spanned Token)) :
    ∀ content, Code.read behind tokens = .ok content → Code.read behind' tokens = .ok content := by
  have alone : ∀ content rest result, readAlone behind content rest = .ok result →
      readAlone behind' content rest = .ok result := by
    intro content rest result h
    cases rest with
    | nil => exact h
    | cons token rest => cases h
  fun_cases Code.read behind tokens with
  | case1 quote text span rest => exact alone _ rest
  | case2 name span rest => exact alone _ rest
  | case3 collection first span name last rest =>
      exact map_ok_imp (readArguments_behind behind behind' _ rest)
  | case4 =>
      intro _ h
      cases h
  | case5 name span rest hmember hdot =>
      rw [Code.read]
      · exact map_ok_imp (readArguments_behind behind behind' _ rest)
      · exact hmember
      · exact hdot
  | case6 =>
      intro _ h
      cases h

/-! ## §6. The whole. -/

/-- Content that keeps the rules on names and order makes a block of its own kind. -/
theorem check_cases {content : Content} {block : Block} (h : check content = .ok block) :
    (∃ value, content = .value value ∧ block = .value value) ∨
      (∃ name, content = .variable name ∧ block = .variable name.node ∧
        checkOperand ⟨.variable name.node, name.span⟩ = .ok ()) ∨
      ∃ function arguments positional named, content = .invocation function arguments ∧
        block = .invocation { function, positional, named } ∧
        arrange [] .empty arguments = .ok (positional, named) := by
  cases content with
  | value value => exact .inl ⟨value, rfl, (Except.ok.inj h).symm⟩
  | «variable» name =>
      rw [check] at h
      cases hname : checkOperand ⟨.variable name.node, name.span⟩ with
      | error e =>
          rw [hname] at h
          contradiction
      | ok _ =>
          rw [hname] at h
          exact .inr (.inl ⟨name, rfl, (Except.ok.inj h).symm, hname⟩)
  | invocation function arguments =>
      rw [check] at h
      cases harrange : arrange [] .empty arguments with
      | error e =>
          rw [harrange] at h
          contradiction
      | ok sorted =>
          rw [harrange] at h
          exact .inr (.inr
            ⟨function, arguments, sorted.1, sorted.2, rfl, (Except.ok.inj h).symm, harrange⟩)

/-- Code is read in three steps, each of which has to succeed. -/
theorem parse_eq_ok_iff {code : String} {offset : Nat} {block : Block} :
    Code.parse code offset = .ok block ↔
      ∃ tokens content, lex code.toList offset = .ok tokens ∧
        Code.read (placeBehind (offset + code.utf8ByteSize) tokens) tokens = .ok content ∧
        check content = .ok block := by
  unfold Code.parse
  cases hlex : lex code.toList offset with
  | error e => simp [bind, Except.bind, Except.mapError]
  | ok tokens =>
    cases hread : Code.read (placeBehind (offset + code.utf8ByteSize) tokens) tokens with
    | error e => simp [bind, Except.bind, Except.mapError, hread]
    | ok content =>
      cases hcheck : check content <;> simp [bind, Except.bind, Except.mapError, hread, hcheck]

/-- **Tokens that can be read are read**, wherever they stand and wherever the block ends. -/
theorem read_of_reads {tokens : List (Spanned Token)} {reading : BareBlock}
    (h : Reads (tokens.map (·.node)) reading) (behind : Span) :
    ∃ content block, Code.read behind tokens = .ok content ∧ check content = .ok block ∧
      block.bare = reading := by
  generalize htokens : tokens.map (·.node) = nodes at h
  cases h with
  | value quote text =>
    obtain ⟨⟨_, span⟩, rest, rfl, rfl, hrest⟩ := List.map_eq_cons_iff.1 htokens
    obtain rfl := List.map_eq_nil_iff.1 hrest
    exact ⟨_, _, rfl, rfl, rfl⟩
  | @«variable» name hname =>
    obtain ⟨⟨_, span⟩, rest, rfl, rfl, hrest⟩ := List.map_eq_cons_iff.1 htokens
    obtain rfl := List.map_eq_nil_iff.1 hrest
    refine ⟨.variable ⟨name, span⟩, .variable name, rfl, ?_, rfl⟩
    have hcheck : checkOperand ⟨.variable name, span⟩ = .ok () := checkOperand_ok hname
    rw [check, hcheck]
    rfl
  | @call c hregular =>
    rw [← c.tokens_arguments] at htokens
    obtain ⟨function, read, hread, hfunction, hbare⟩ :=
      read_call behind c.function c.arguments tokens htokens
    obtain ⟨positional, named, harrange, hpos, hnamed⟩ := arrange_arguments hregular hbare
    refine ⟨_, .invocation { function, positional, named }, hread, ?_, ?_⟩
    · rw [check, harrange]
      rfl
    · simp [Block.bare, Invocation.bare, hfunction, hpos, hnamed]

/-- **A well-formed code block is read from its tokens**, wherever they stand. -/
theorem parse_of_tokens {block : BareBlock} (h : block.WellFormed) (hcode : ¬ block.IsText)
    {code : String} {offset : Nat} {tokens : List (Spanned Token)}
    (hlex : lex code.toList offset = .ok tokens) (htokens : tokens.map (·.node) = block.tokens) :
    ∃ read, Code.parse code offset = .ok read ∧ read.bare = block := by
  obtain ⟨content, read, hread, hcheck, hbare⟩ :=
    read_of_reads (htokens ▸ reads_tokens h hcode) (placeBehind (offset + code.utf8ByteSize) tokens)
  exact ⟨read, parse_eq_ok_iff.2 ⟨tokens, content, hlex, hread, hcheck⟩, hbare⟩

end Code

end PromptEngine
