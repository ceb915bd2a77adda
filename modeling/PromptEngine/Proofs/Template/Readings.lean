/-
  PromptEngine.Proofs.Template.Readings — code is accepted exactly if its tokens can be read.

  `Code.Reads` says which rows of tokens can be read, and as which block; the grammar accepts all
  of them (`Proofs.Template.Grammar`).  Here is the way back: what the grammar accepts spells the
  block that it gives.  Steps: the arguments (`tokens_of_readArguments`), the content
  (`tokens_of_read`), the rules of names and order (`exists_of_arrange`), and the whole
  (`reads_of_check`).  Since the grammar gives one block only, a row of tokens has at most one
  reading (`Reads.unique`), and since the lexer spells names with name characters, the names in a
  reading are identifiers (`Reads.wellFormed`).  Main result: `parse_accepts`.
-/
import Mathlib
import PromptEngine.Proofs.Table
import PromptEngine.Proofs.Template.Grammar
import PromptEngine.Proofs.Template.Lexemes

namespace PromptEngine

namespace Code

/-! ## §1. What is read is spelled by the tokens. -/

theorem token_of_operand? {token : Spanned Token} {operand : Spanned Operand}
    (h : operand? token = some operand) : token.node = operand.node.token := by
  unfold operand? at h
  split at h
  · next hnode =>
    cases h
    exact hnode
  · next hnode =>
    cases h
    exact hnode
  · cases h

/-- **Arguments that are read are spelled by the tokens.** -/
theorem tokens_of_readArguments (behind : Span) (here : List Expectation)
    (tokens : List (Spanned Token)) :
    ∀ arguments, readArguments behind here tokens = .ok arguments →
      tokens.map (·.node) = (arguments.map (·.bare)).flatMap (·.tokens) := by
  fun_induction readArguments behind here tokens with
  | case1 here =>
      intro arguments h
      cases h
      rfl
  | case2 here token rest operand hoperand ih =>
      intro arguments h
      obtain ⟨more, hmore, rfl⟩ := exists_of_map_ok h
      rw [List.map_cons, token_of_operand? hoperand, ih more hmore]
      rfl
  | case3 here token hword name span value rest hname operand hoperand argument ih =>
      intro arguments h
      obtain ⟨more, hmore, rfl⟩ := exists_of_map_ok h
      rw [List.map_cons, List.map_cons, List.map_cons, hname, token_of_operand? hoperand,
        ih more hmore]
      rfl
  | case4 | case5 | case6 | case7 =>
      intro _ h
      cases h

/-- The tokens that spell the content of a block. -/
def Content.tokens : Content → List Token
  | .value v => [.literal v.quote v.value]
  | .variable name => [.variable name.node]
  | .invocation function arguments =>
    function.node.tokens ++ (arguments.map (·.bare)).flatMap (·.tokens)

/-- **Content that is read is spelled by the tokens.** -/
theorem tokens_of_read (behind : Span) (tokens : List (Spanned Token)) :
    ∀ content, Code.read behind tokens = .ok content →
      tokens.map (·.node) = content.tokens := by
  have alone : ∀ content rest result, readAlone behind content rest = .ok result →
      rest = [] ∧ result = content := by
    intro content rest result h
    cases rest with
    | nil => exact ⟨rfl, (Except.ok.inj h).symm⟩
    | cons token rest => cases h
  fun_cases Code.read behind tokens with
  | case1 quote text span rest =>
      intro content h
      obtain ⟨rfl, rfl⟩ := alone _ rest content h
      rfl
  | case2 name span rest =>
      intro content h
      obtain ⟨rfl, rfl⟩ := alone _ rest content h
      rfl
  | case3 collection first span name last rest =>
      intro content h
      obtain ⟨arguments, harguments, rfl⟩ := exists_of_map_ok h
      rw [List.map_cons, List.map_cons, List.map_cons,
        tokens_of_readArguments behind _ rest arguments harguments]
      rfl
  | case4 =>
      intro _ h
      cases h
  | case5 name span rest hmember hdot =>
      intro content h
      obtain ⟨arguments, harguments, rfl⟩ := exists_of_map_ok h
      rw [List.map_cons, tokens_of_readArguments behind _ rest arguments harguments]
      rfl
  | case6 =>
      intro _ h
      cases h

/-! ## §2. What is arranged keeps the rules. -/

theorem named_of_checkOperand {operand : Spanned Operand} (h : checkOperand operand = .ok ()) :
    operand.node.Named := by
  obtain ⟨node, span⟩ := operand
  cases node with
  | value _ => trivial
  | «variable» name =>
    rintro rfl
    cases h

/-- A positional argument that is kept has a name and stands behind no named one. -/
theorem arrange_positional_inv {operand : Spanned Operand} {positional : List (Spanned Operand)}
    {named : Table (Spanned NamedOperand)} {rest : List CallArgument}
    {result : List (Spanned Operand) × Table (Spanned NamedOperand)}
    (h : arrange positional named (.positional operand :: rest) = .ok result) :
    operand.node.Named ∧ named = .empty ∧
      arrange (operand :: positional) .empty rest = .ok result := by
  rw [arrange] at h
  cases hcheck : checkOperand operand with
  | error e =>
    rw [hcheck] at h
    cases h
  | ok _ =>
    rw [hcheck] at h
    replace h : (if named.isEmpty then arrange (operand :: positional) named rest
      else _) = Except.ok result := h
    split at h
    · next hempty =>
      obtain rfl := Table.eq_empty_of_isEmpty hempty
      exact ⟨named_of_checkOperand hcheck, rfl, h⟩
    · cases h

/-- A named argument that is kept has a value with a name and is the first one of its own name. -/
theorem arrange_named_inv {argument : Spanned NamedOperand} {positional : List (Spanned Operand)}
    {named : Table (Spanned NamedOperand)} {rest : List CallArgument}
    {result : List (Spanned Operand) × Table (Spanned NamedOperand)}
    (h : arrange positional named (.named argument :: rest) = .ok result) :
    argument.node.operand.node.Named ∧ argument.node.name.node ∉ named.names ∧
      arrange positional (named.insert argument.node.name.node argument) rest = .ok result := by
  rw [arrange] at h
  cases hcheck : checkOperand argument.node.operand with
  | error e =>
    rw [hcheck] at h
    cases h
  | ok _ =>
    rw [hcheck] at h
    replace h : (if named.contains argument.node.name.node then _
      else arrange positional (named.insert _ argument) rest) = Except.ok result := h
    split at h
    · cases h
    · next hnew =>
      refine ⟨named_of_checkOperand hcheck, ?_, h⟩
      rwa [Table.contains_iff_mem_names] at hnew

/-- **Arguments that are kept stand in order**: positional ones in front of named ones, with the
names that they have to have, and each named one under its own. -/
theorem exists_of_arrange :
    ∀ (arguments : List CallArgument) (positional : List (Spanned Operand))
      (named : Table (Spanned NamedOperand))
      (result : List (Spanned Operand) × Table (Spanned NamedOperand)),
      arrange positional named arguments = .ok result →
      ∃ (operands : List (Spanned Operand)) (more : List (Spanned NamedOperand)),
        arguments = operands.map .positional ++ more.map .named ∧
        (named ≠ .empty → operands = []) ∧
        result = (positional.reverse ++ operands, named.insertAll (more.map NamedOperand.entry)) ∧
        (∀ operand ∈ operands, operand.node.Named) ∧
        (∀ argument ∈ more, argument.node.operand.node.Named) ∧
        (named.names ++ more.map (·.node.name.node)).Nodup
  | [], positional, named, result, h => by
      cases h
      refine ⟨[], [], rfl, fun _ => rfl, ?_, List.forall_mem_nil _, List.forall_mem_nil _, ?_⟩
      · rw [List.append_nil]
        rfl
      · rw [List.map_nil, List.append_nil]
        exact named.nodup
  | .positional operand :: rest, positional, named, result, h => by
      obtain ⟨hnamed, rfl, hrest⟩ := arrange_positional_inv h
      obtain ⟨operands, more, rfl, -, rfl, hoperands, hmore, hnames⟩ :=
        exists_of_arrange rest (operand :: positional) .empty result hrest
      exact ⟨operand :: operands, more, rfl, absurd rfl, by simp,
        List.forall_mem_cons.2 ⟨hnamed, hoperands⟩, hmore, hnames⟩
  | .named argument :: rest, positional, named, result, h => by
      obtain ⟨hnamed, hnew, hrest⟩ := arrange_named_inv h
      obtain ⟨operands, more, rfl, hfirst, rfl, -, hmore, hnames⟩ :=
        exists_of_arrange rest positional (named.insert argument.node.name.node argument) result
          hrest
      -- Behind a named argument no positional one is left.
      obtain rfl := hfirst (named.insert_ne_empty _ argument)
      refine ⟨[], argument :: more, rfl, fun _ => rfl, rfl, List.forall_mem_nil _,
        List.forall_mem_cons.2 ⟨hnamed, hmore⟩, ?_⟩
      rw [Table.names_insert, if_neg hnew, List.append_assoc] at hnames
      exact hnames

/-- Of the arguments of a whole call, the named ones make a table of their own. -/
theorem exists_of_arrange_empty {arguments : List CallArgument}
    {result : List (Spanned Operand) × Table (Spanned NamedOperand)}
    (h : arrange [] .empty arguments = .ok result) :
    ∃ (operands : List (Spanned Operand)) (more : List (Spanned NamedOperand)),
      arguments = operands.map .positional ++ more.map .named ∧
      result = (operands, .ofList (more.map NamedOperand.entry)) ∧
      (∀ operand ∈ operands, operand.node.Named) ∧
      (∀ argument ∈ more, argument.node.operand.node.Named) ∧
      (more.map (·.node.name.node)).Nodup := by
  obtain ⟨operands, more, harguments, -, hresult, hoperands, hmore, hnames⟩ :=
    exists_of_arrange arguments [] .empty result h
  exact ⟨operands, more, harguments, hresult, hoperands, hmore, hnames⟩

/-- **Content that keeps the rules is a reading of its tokens.** -/
theorem reads_of_check {content : Content} {block : Block} (h : check content = .ok block) :
    Reads content.tokens block.bare := by
  obtain ⟨v, rfl, rfl⟩ | ⟨name, rfl, rfl, hname⟩ |
    ⟨function, arguments, positional, table, rfl, rfl, harrange⟩ := check_cases h
  · exact .value v.quote v.value
  · exact .variable (named_of_checkOperand hname)
  · obtain ⟨operands, named, rfl, hsorted, hpositional, hnamed, hnames⟩ :=
      exists_of_arrange_empty harrange
    obtain ⟨rfl, rfl⟩ := Prod.mk.inj hsorted
    -- The arguments are positional ones and then named ones, as in the reading.
    let call : BareCall :=
      ⟨function.node, positional.map (·.node), named.map (·.node.bare)⟩
    have harguments : (positional.map CallArgument.positional ++
        named.map CallArgument.named).map (·.bare) = call.arguments := by
      simp [call, BareCall.arguments, CallArgument.bare, NamedOperand.bare, Function.comp_def]
    have hregular : call.Regular :=
      { positional := List.forall_mem_map.2 hpositional
        named := List.forall_mem_map.2 hnamed
        distinct := by
          rw [List.map_map]
          exact hnames }
    have hbare : (Block.invocation
        ⟨function, positional, .ofList (named.map NamedOperand.entry)⟩).bare = .call call := by
      simp only [Block.bare, Invocation.bare, NamedOperand.values_ofList hnames, call]
    rw [Content.tokens, harguments, call.tokens_arguments, hbare]
    exact .call hregular

/-- **Each named argument stands under its own name**, if the invocation keeps the rules. -/
theorem keyed_of_check {content : Content} {call : Invocation}
    (h : check content = .ok (.invocation call)) : call.Keyed := by
  obtain ⟨_, -, hcall⟩ | ⟨_, -, hcall, -⟩ |
    ⟨_, _, positional, table, -, hcall, harrange⟩ := check_cases h
  · contradiction
  · contradiction
  · obtain rfl := Block.invocation.inj hcall
    obtain ⟨operands, named, -, hsorted, -, -, hnames⟩ := exists_of_arrange_empty harrange
    obtain ⟨rfl, rfl⟩ := Prod.mk.inj hsorted
    intro entry hentry
    rw [show (Table.ofList (named.map NamedOperand.entry)).entries = _ from
      NamedOperand.entries_ofList hnames] at hentry
    obtain ⟨argument, -, rfl⟩ := List.mem_map.1 hentry
    rfl

theorem keyed_of_parse {code : String} {offset : Nat} {call : Invocation}
    (h : Code.parse code offset = .ok (.invocation call)) : call.Keyed := by
  obtain ⟨_, _, _, _, hcheck⟩ := parse_eq_ok_iff.1 h
  exact keyed_of_check hcheck

/-! ## §3. Readings. -/

/-- **A row of tokens has at most one reading.** -/
theorem Reads.unique {tokens : List Token} {a b : BareBlock} (ha : Reads tokens a)
    (hb : Reads tokens b) : a = b := by
  -- Wherever the tokens stand, the grammar gives one block for them.
  let placed : List (Spanned Token) := tokens.map fun token => ⟨token, ⟨0, 0⟩⟩
  have hplaced : placed.map (·.node) = tokens := by
    simp [placed, Function.comp_def]
  obtain ⟨content, block, hread, hcheck, rfl⟩ := read_of_reads (hplaced.symm ▸ ha) ⟨0, 0⟩
  obtain ⟨content', block', hread', hcheck', rfl⟩ := read_of_reads (hplaced.symm ▸ hb) ⟨0, 0⟩
  obtain rfl : content = content' := Except.ok.inj (hread.symm.trans hread')
  obtain rfl : block = block' := Except.ok.inj (hcheck.symm.trans hcheck')
  rfl

/-- The name of a variable that is spelled with name characters is an identifier. -/
theorem wellFormed_of_lexable {operand : Operand} (h : operand.Named)
    (hlex : operand.token.Lexable) : operand.WellFormed := by
  cases operand with
  | value _ => trivial
  | «variable» name =>
    refine (isIdentifier_iff name).2 ⟨fun hnil => h ?_, hlex⟩
    exact String.toList_eq_nil_iff.1 hnil

/-- **The names in a reading are identifiers**, if the tokens are ones that the lexer reads. -/
theorem Reads.wellFormed {tokens : List Token} {block : BareBlock} (h : Reads tokens block)
    (hlex : ∀ token ∈ tokens, token.Lexable) : block.WellFormed := by
  cases h with
  | value quote text => trivial
  | @«variable» name hname =>
    have hwell : (Operand.variable name).WellFormed :=
      wellFormed_of_lexable hname (hlex _ List.mem_cons_self)
    exact hwell
  | @call c hregular =>
    obtain ⟨hfunction, harguments⟩ := List.forall_mem_append.1 hlex
    obtain ⟨hpositional, hnamed⟩ := List.forall_mem_append.1 harguments
    have hthree : ∀ argument ∈ c.named, ∀ token ∈
        [Token.word argument.1, Token.equals, argument.2.token], token.Lexable :=
      fun argument hmem token htoken => hnamed token (List.mem_flatMap.2 ⟨argument, hmem, htoken⟩)
    refine { collection := ?_, name := ?_, positional := ?_, named := ?_,
             distinct := hregular.distinct }
    · obtain ⟨⟨collection, name⟩, _, _⟩ := c
      rintro collection ⟨⟩
      exact hfunction (.word collection) List.mem_cons_self
    · obtain ⟨⟨collection, name⟩, _, _⟩ := c
      exact hfunction (.word name) (by cases collection <;> simp [FunctionRef.tokens])
    · intro operand hmem
      exact wellFormed_of_lexable (hregular.positional operand hmem)
        (hpositional operand.token (List.mem_map_of_mem hmem))
    · intro argument hmem
      exact ⟨hthree argument hmem (.word argument.1) (by simp),
        wellFormed_of_lexable (hregular.named argument hmem)
          (hthree argument hmem argument.2.token (by simp))⟩

/-! ## §4. The whole. -/

/-- **Code is accepted exactly if its tokens can be read, and as what they can be read.**  For
every text, wherever it begins: the text is read as a block if and only if the lexer reads tokens
that have a reading — one literal, one variable with a name, or a function with positional
arguments and then named ones under distinct names.  No row of tokens has two readings.  The block
that is read carries the reading, with the contents and the quotes of its literals and all
arguments in their order; its names are identifiers, and each named argument stands under its own
name. -/
theorem parse_accepts (code : String) (offset : Nat) :
    ((∃ block, Code.parse code offset = .ok block) ↔
      ∃ tokens reading, lex code.toList offset = .ok tokens ∧
        Reads (tokens.map (·.node)) reading) ∧
    (∀ tokens a b, Reads tokens a → Reads tokens b → a = b) ∧
    ∀ block, Code.parse code offset = .ok block →
      (∃ tokens, lex code.toList offset = .ok tokens ∧
        Reads (tokens.map (·.node)) block.bare) ∧
      block.bare.WellFormed ∧
      ∀ call, block = .invocation call → call.Keyed := by
  have sound : ∀ block, Code.parse code offset = .ok block →
      ∃ tokens, lex code.toList offset = .ok tokens ∧
        Reads (tokens.map (·.node)) block.bare := by
    intro block h
    obtain ⟨tokens, content, hlex, hread, hcheck⟩ := parse_eq_ok_iff.1 h
    refine ⟨tokens, hlex, ?_⟩
    rw [tokens_of_read _ tokens content hread]
    exact reads_of_check hcheck
  refine ⟨⟨?_, ?_⟩, fun _ _ _ => Reads.unique, fun block h => ?_⟩
  · rintro ⟨block, h⟩
    obtain ⟨tokens, hlex, hreads⟩ := sound block h
    exact ⟨tokens, block.bare, hlex, hreads⟩
  · rintro ⟨tokens, reading, hlex, hreads⟩
    obtain ⟨content, block, hread, hcheck, -⟩ := read_of_reads hreads _
    exact ⟨block, parse_eq_ok_iff.2 ⟨tokens, content, hlex, hread, hcheck⟩⟩
  · obtain ⟨tokens, hlex, hreads⟩ := sound block h
    refine ⟨⟨tokens, hlex, hreads⟩, hreads.wellFormed ?_, ?_⟩
    · exact List.forall_mem_map.2 (lexFrom_eq_ok_iff.1 hlex).lexable
    · rintro call rfl
      exact keyed_of_parse h

/-- A call with arguments of all kinds; blanks stand around an equals sign. -/
def spacedCall : String :=
  "math.add $a 'it\\'s' y = \"3\" z=$c"

/-- What it is read as. -/
def spacedReading : BareCall where
  function := ⟨some "math", "add"⟩
  positional := [.variable "a", .value ⟨"it's", .single⟩]
  named := [("y", .value ⟨"3", .double⟩), ("z", .variable "c")]

theorem parse_accepts_spacedCall :
    ∃ call, Code.parse spacedCall 4 = .ok (.invocation call) ∧ call.bare = spacedReading ∧
      call.named.names = ["y", "z"] ∧ call.bare.WellFormed := by
  obtain ⟨accepted, unique, sound⟩ := parse_accepts spacedCall 4
  have hregular : spacedReading.Regular := by
    constructor <;> simp [spacedReading, Operand.Named]
  have hlex : ∃ tokens, lex spacedCall.toList 4 = .ok tokens ∧
      tokens.map (·.node) = (BareBlock.call spacedReading).tokens := by
    refine ⟨[⟨.word "math", ⟨4, 8⟩⟩, ⟨.dot, ⟨8, 9⟩⟩, ⟨.word "add", ⟨9, 12⟩⟩,
      ⟨.variable "a", ⟨13, 15⟩⟩, ⟨.literal .single "it's", ⟨16, 23⟩⟩, ⟨.word "y", ⟨24, 25⟩⟩,
      ⟨.equals, ⟨26, 27⟩⟩, ⟨.literal .double "3", ⟨28, 31⟩⟩, ⟨.word "z", ⟨32, 33⟩⟩,
      ⟨.equals, ⟨33, 34⟩⟩, ⟨.variable "c", ⟨34, 36⟩⟩], ?_, rfl⟩
    cbv
  obtain ⟨tokens, hlex, htokens⟩ := hlex
  have hreads : Reads (tokens.map (·.node)) (.call spacedReading) := by
    rw [htokens]
    exact .call hregular
  obtain ⟨block, hparse⟩ := accepted.2 ⟨tokens, _, hlex, hreads⟩
  obtain ⟨⟨tokens', hlex', hreads'⟩, hwell, hkeyed⟩ := sound block hparse
  obtain rfl : tokens = tokens' := Except.ok.inj (hlex.symm.trans hlex')
  have hbare : block.bare = .call spacedReading := unique _ _ _ hreads' hreads
  cases block with
  | invocation call =>
    have hcall : call.bare = spacedReading := BareBlock.call.inj hbare
    refine ⟨call, hparse, hcall, ?_, hwell⟩
    rw [← (hkeyed call rfl).names_eq]
    have := congrArg (fun c : BareCall => c.named.map Prod.fst) hcall
    simpa [Invocation.bare, NamedOperand.bare, spacedReading, Function.comp_def] using this
  | text _ => cases hbare
  | value _ => cases hbare
  | «variable» _ => cases hbare
  | namedArgument _ => cases hbare

end Code

end PromptEngine
