/-
  PromptEngine.Proofs.Engine.Declared — what a prompt function declares and what its template reads.

  Without invocations, a template is rendered by writing its blocks one after the other, and an
  argument table matters only by the texts of the variables that the template refers to
  (`plain_congr`).  A prompt function declares these variables up to case, in one spelling each,
  while a look-up in a table tells spellings apart.  So the declared names are enough to know the
  text exactly if every variable is always spelled alike (`ofTemplate_declares`): of two spellings
  one is not declared, and a table can hold something there (`length_plain_lt`).

  Main result: `ofTemplate_declares`.
-/
import Mathlib
import PromptEngine.Engine.Render
import PromptEngine.Proofs.Template.Variables

namespace PromptEngine

/-! ## §1. Templates without invocations. -/

/-- A template that calls no function. -/
def Template.CallFree (template : Template) : Prop :=
  ∀ block ∈ template.blocks, ∀ call, block.node ≠ .invocation call

instance (template : Template) : Decidable template.CallFree :=
  decidable_of_iff
    (∀ block ∈ template.blocks, (match block.node with | .invocation _ => false | _ => true) = true)
    (by
      refine forall₂_congr fun block _ => ?_
      cases block.node <;> simp)

/-- What a block writes, if it calls no function. -/
def Block.plain (arguments : Arguments) (trust : Trust) : Block → String
  | .text t => t
  | .value v => v.value
  | .variable name => Engine.renderVariable arguments trust name
  | .namedArgument argument => Engine.renderOperand arguments trust argument.operand.node
  | .invocation _ => ""

/-- What a row of blocks writes, if none calls a function. -/
def plain (arguments : Arguments) (trust : Trust) : List (Spanned Block) → String
  | [] => ""
  | block :: rest => block.node.plain arguments trust ++ plain arguments trust rest

/-- Two argument tables give the same text for each of the names. -/
def Arguments.AgreeOn (names : List String) (a b : Arguments) : Prop :=
  ∀ name ∈ names, a.getText? name = b.getText? name

namespace Engine

variable {σ : Type} (e : Engine σ) (invoke : Caller σ Outcome)

/-- Blocks that call no function are written, and nothing else happens. -/
theorem renderBlocks_eq_plain (arguments : Arguments) (trust : Trust) (raw : Spanned Block → String)
    {blocks : List (Spanned Block)}
    (h : ∀ block ∈ blocks, ∀ call, block.node ≠ .invocation call) :
    e.renderBlocks invoke arguments trust raw blocks
      = pure (.ok (plain arguments trust blocks)) := by
  induction blocks with
  | nil => rfl
  | cons block blocks ih =>
      obtain ⟨hblock, hblocks⟩ := List.forall_mem_cons.mp h
      have hwrites : e.renderBlock invoke arguments trust block.node
          = pure (.ok (block.node.plain arguments trust)) := by
        cases hnode : block.node with
        | text t => rfl
        | value v => rfl
        | «variable» name => rfl
        | namedArgument argument => rfl
        | invocation call => exact absurd hnode (hblock call)
      unfold renderBlocks Exec.orFail
      rw [hwrites, ih hblocks, pure_bind]
      dsimp only
      rw [pure_bind]
      rfl

end Engine

/-! ## §2. What the text depends on. -/

/-- The text of an operand depends on the variable that it reads. -/
theorem Engine.renderOperand_congr {a b : Arguments} (trust : Trust) {operand : Operand}
    (h : a.AgreeOn operand.read?.toList b) :
    renderOperand a trust operand = renderOperand b trust operand := by
  cases operand with
  | value v => rfl
  | «variable» name =>
      show renderVariable a trust name = renderVariable b trust name
      unfold renderVariable
      rw [h name List.mem_cons_self]

theorem Block.plain_congr {a b : Arguments} (trust : Trust) {block : Block}
    (h : a.AgreeOn block.variableNames b) : block.plain a trust = block.plain b trust := by
  cases block with
  | text t => rfl
  | value v => rfl
  | «variable» name =>
      have hsame : Engine.renderOperand a trust (.variable name)
          = Engine.renderOperand b trust (.variable name) := Engine.renderOperand_congr trust h
      exact hsame
  | namedArgument argument => exact Engine.renderOperand_congr trust h
  | invocation call => rfl

/-- The text of blocks depends on the variables that they refer to. -/
theorem plain_congr {a b : Arguments} (trust : Trust) {blocks : List (Spanned Block)}
    (h : a.AgreeOn (blocks.flatMap fun block => block.node.variableNames) b) :
    plain a trust blocks = plain b trust blocks := by
  induction blocks with
  | nil => rfl
  | cons block blocks ih =>
      obtain ⟨hblock, hblocks⟩ := List.forall_mem_append.mp h
      unfold plain
      rw [ih hblocks, Block.plain_congr trust hblock]

/-- A table with one text in it. -/
def Arguments.single (name text : String) : Arguments :=
  .ofList [(name, .string text)]

theorem Arguments.getText?_single (name text other : String) :
    (single name text).getText? other = if name = other then some text else none := by
  show ((Table.empty.insert name (Json.string text)).get? other).map Json.toText = _
  rw [Table.get?_insert, Table.get?_empty]
  split <;> rfl

/-- A text at one name makes an operand longer if the operand reads that variable, and no shorter
otherwise. -/
theorem Engine.length_renderOperand (name : String) (operand : Operand) :
    (renderOperand {} {} operand).length + (if name ∈ operand.read?.toList then 1 else 0)
      ≤ (renderOperand (.single name "x") {} operand).length := by
  cases operand with
  | value v => exact Nat.le_refl _
  | «variable» other =>
      have hempty : renderOperand {} {} (.variable other) = "" := rfl
      rw [hempty]
      by_cases hname : name = other
      · subst hname
        have hwritten : renderOperand (.single name "x") {} (.variable name) = "x" := by
          show renderVariable _ _ _ = _
          unfold renderVariable
          rw [Arguments.getText?_single, if_pos rfl]
          rfl
        rw [hwritten, if_pos (by exact List.mem_cons_self)]
        decide
      · have hother : name ∉ (Operand.variable other).read?.toList := fun hmem =>
          hname (List.mem_singleton.mp hmem)
        rw [if_neg hother]
        exact Nat.zero_le _

/-- The same of a block that calls no function. -/
theorem length_plain_block (name : String) {block : Block} (h : ∀ call, block ≠ .invocation call) :
    (block.plain {} {}).length + (if name ∈ block.variableNames then 1 else 0)
      ≤ (block.plain (.single name "x") {}).length := by
  cases block with
  | text t => exact Nat.le_refl _
  | value v => exact Nat.le_refl _
  | «variable» other => exact Engine.length_renderOperand name (.variable other)
  | namedArgument argument => exact Engine.length_renderOperand name argument.operand.node
  | invocation call => exact absurd rfl (h call)

/-- A text at one name makes no text shorter. -/
theorem length_plain_le (name : String) {blocks : List (Spanned Block)}
    (h : ∀ block ∈ blocks, ∀ call, block.node ≠ .invocation call) :
    (plain {} {} blocks).length ≤ (plain (.single name "x") {} blocks).length := by
  induction blocks with
  | nil => exact Nat.le_refl 0
  | cons block blocks ih =>
      obtain ⟨hblock, hblocks⟩ := List.forall_mem_cons.mp h
      have hfirst := length_plain_block name hblock
      have hrest := ih hblocks
      unfold plain
      rw [String.length_append, String.length_append]
      omega

/-- A text at one name is seen where that variable is referred to. -/
theorem length_plain_lt {name : String} {blocks : List (Spanned Block)}
    (h : ∀ block ∈ blocks, ∀ call, block.node ≠ .invocation call)
    (hname : ∃ block ∈ blocks, name ∈ block.node.variableNames) :
    (plain {} {} blocks).length < (plain (.single name "x") {} blocks).length := by
  obtain ⟨block, hmem, hread⟩ := hname
  induction blocks with
  | nil => contradiction
  | cons first blocks ih =>
      obtain ⟨hblock, hblocks⟩ := List.forall_mem_cons.mp h
      have hfirst := length_plain_block name hblock
      have hrest := length_plain_le name hblocks
      unfold plain
      rw [String.length_append, String.length_append]
      obtain rfl | hmem := List.mem_cons.mp hmem
      · rw [if_pos hread] at hfirst
        omega
      · have hlt := ih hblocks hmem
        omega

/-! ## §3. What a prompt function declares. -/

/-- The names of the parameters of a function. -/
def Function.parameterNames {σ : Type} (f : Function σ) : List String :=
  f.descriptor.parameters.map (·.name)

/-- A prompt function declares the distinct variables of its template. -/
theorem parameterNames_ofTemplate {σ : Type} (name : String) (template : Template)
    (description : Option String) (settings : List Settings) :
    (Function.ofTemplate name template description settings : Function σ).parameterNames
      = Template.distinctNames template.references := by
  show (template.variableNames.map fun name => ({ name } : Parameter)).map (·.name) = _
  rw [List.map_map]
  exact List.map_id _

namespace Template

/-- Two argument tables render a template alike: whatever the engine, the trust and the state, both
give the same text, and nothing else happens. -/
def RendersAlike (template : Template) (a b : Arguments) : Prop :=
  ∀ (σ : Type) (e : Engine σ) (invoke : Caller σ Outcome) (trust : Trust) (s : σ), ∃ text,
    e.renderTemplate invoke template a trust s = some (.ok text, s, []) ∧
      e.renderTemplate invoke template b trust s = some (.ok text, s, [])

/-- Every variable that a template refers to is always spelled alike. -/
def SpelledAlike (template : Template) : Prop :=
  ∀ m ∈ template.references, ∀ n ∈ template.references, sameName m n = true → m = n

theorem renderTemplate_eq_plain {σ : Type} (e : Engine σ) (invoke : Caller σ Outcome)
    {template : Template} (h : template.CallFree) (arguments : Arguments) (trust : Trust) (s : σ) :
    e.renderTemplate invoke template arguments trust s
      = some (.ok (plain arguments trust template.blocks), s, []) := by
  unfold Engine.renderTemplate
  rw [Engine.renderBlocks_eq_plain e invoke arguments trust template.raw h]
  rfl

/-- Tables that agree on every reference render a template alike. -/
theorem rendersAlike_of_references {template : Template} (h : template.CallFree) {a b : Arguments}
    (hab : a.AgreeOn template.references b) : template.RendersAlike a b := by
  intro σ e invoke trust s
  refine ⟨plain a trust template.blocks, renderTemplate_eq_plain e invoke h a trust s, ?_⟩
  rw [renderTemplate_eq_plain e invoke h b trust s, plain_congr trust hab]

/-- A table that holds a text at a variable of the template renders it in another way than the
empty table. -/
theorem not_rendersAlike_single {template : Template} (h : template.CallFree) {name : String}
    (hname : name ∈ template.references) : ¬ template.RendersAlike {} (.single name "x") := by
  intro halike
  obtain ⟨text, hempty, hsingle⟩ := halike Unit {} (fun _ _ => Exec.exhausted) {} ()
  rw [renderTemplate_eq_plain _ _ h] at hempty hsingle
  have hlt := length_plain_lt h (List.mem_flatMap.mp hname)
  have hends := Option.some.inj (hempty.trans hsingle.symm)
  have heq : plain {} {} template.blocks = plain (.single name "x") {} template.blocks :=
    Except.ok.inj (Prod.mk.inj hends).1
  rw [heq] at hlt
  exact Nat.lt_irrefl _ hlt

/-- **What a prompt function declares is what its template reads, up to case.**  Let the template
call no function.  Tables that give the same text for every spelling of every parameter render it
alike.  That they do so for the parameters as they are spelled is enough exactly if the template
never refers to one variable in two spellings: only one of them is declared, and the text depends
on both. -/
theorem ofTemplate_declares {σ : Type} (name : String) (template : Template)
    (description : Option String) (settings : List Settings) (h : template.CallFree) :
    let f : Function σ := .ofTemplate name template description settings
    (∀ a b : Arguments,
        (∀ parameter ∈ f.parameterNames, ∀ spelling, sameName parameter spelling = true →
          a.getText? spelling = b.getText? spelling) →
        template.RendersAlike a b) ∧
      ((∀ a b : Arguments, a.AgreeOn f.parameterNames b → template.RendersAlike a b)
        ↔ template.SpelledAlike) := by
  intro f
  rw [parameterNames_ofTemplate]
  refine ⟨?_, ?_, ?_⟩
  · intro a b hagree
    apply rendersAlike_of_references h
    intro reference hreference
    obtain ⟨parameter, hparameter, hsame⟩ := exists_mem_distinctNames hreference
    exact hagree parameter hparameter reference hsame
  · intro henough m hm n hn hmn
    -- Every reference is declared as it stands: else a table could hold something there unnoticed.
    have hlisted : ∀ reference ∈ template.references,
        reference ∈ distinctNames template.references := by
      intro reference hreference
      by_contra hunlisted
      refine not_rendersAlike_single h hreference (henough {} _ ?_)
      intro parameter hparameter
      have hne : reference ≠ parameter := by
        rintro rfl
        exact hunlisted hparameter
      rw [Arguments.getText?_single, if_neg hne]
      rfl
    exact eq_of_mem_distinctNames (hlisted m hm) (hlisted n hn) hmn
  · intro halike a b hagree
    apply rendersAlike_of_references h
    intro reference hreference
    obtain ⟨parameter, hparameter, hsame⟩ := exists_mem_distinctNames hreference
    have hparameter' := mem_of_mem_distinctNames hparameter
    rw [← halike parameter hparameter' reference hreference hsame]
    exact hagree parameter hparameter

/-- A template that refers to one variable in two spellings. -/
def twoSpellings : Template :=
  { source := "\x7b\x7b$City\x7d\x7d \x7b\x7b$city\x7d\x7d"
    blocks :=
      [⟨.variable "City", ⟨0, 9⟩⟩, ⟨.text " ", ⟨9, 10⟩⟩, ⟨.variable "city", ⟨10, 19⟩⟩] }

theorem parse_twoSpellings : parse twoSpellings.source = .ok twoSpellings := by
  cbv

/-- Only the first of the spellings is declared. -/
theorem parameterNames_twoSpellings {σ : Type} (name : String) (description : Option String)
    (settings : List Settings) :
    (Function.ofTemplate name twoSpellings description settings : Function σ).parameterNames
      = ["City"] := by
  rw [parameterNames_ofTemplate]
  cbv

theorem ofTemplate_declares_twoSpellings :
    twoSpellings.CallFree ∧
      twoSpellings.RendersAlike (.single "City" "Oslo")
        ((Arguments.single "City" "Oslo").insert "zip" (.string "0150")) ∧
      ¬ ∀ a b : Arguments, a.AgreeOn ["City"] b → twoSpellings.RendersAlike a b := by
  have hfree : twoSpellings.CallFree := by decide
  have hdeclares := ofTemplate_declares (σ := Unit) "greet" twoSpellings none [] hfree
  dsimp only at hdeclares
  rw [parameterNames_twoSpellings] at hdeclares
  refine ⟨hfree, ?_, ?_⟩
  · apply hdeclares.1
    intro parameter hparameter spelling hsame
    rw [List.mem_singleton.mp hparameter] at hsame
    have hzip : sameName "City" "zip" = false := by cbv
    have hne : "zip" ≠ spelling := by
      rintro rfl
      rw [hzip] at hsame
      contradiction
    unfold Arguments.getText? Arguments.insert Arguments.get?
    rw [Table.get?_insert, if_neg hne]
  · intro henough
    have halike : twoSpellings.SpelledAlike := hdeclares.2.mp henough
    have hsame : sameName "City" "city" = true := by cbv
    exact absurd (halike "City" (by decide) "city" (by decide) hsame) (by decide)

/-- The parameters of a prompt function, as they are spelled, do not determine its text. -/
theorem ofTemplate_undeclared :
    ¬ ∀ (source name : String) (template : Template) (a b : Arguments),
        parse source = .ok template → template.CallFree →
        (∀ parameter ∈ (Function.ofTemplate name template : Function Unit).parameterNames,
          a.get? parameter = b.get? parameter) →
        template.RendersAlike a b := by
  intro henough
  have hfree : twoSpellings.CallFree := by decide
  have hagree :
      ∀ parameter ∈ (Function.ofTemplate "greet" twoSpellings : Function Unit).parameterNames,
        Arguments.get? {} parameter = (Arguments.single "city" "x").get? parameter := by
    intro parameter hparameter
    rw [parameterNames_twoSpellings] at hparameter
    rw [List.mem_singleton.mp hparameter]
    rfl
  have halike := henough twoSpellings.source "greet" twoSpellings {} (.single "city" "x")
    parse_twoSpellings hfree hagree
  exact not_rendersAlike_single hfree (by decide) halike

end Template

end PromptEngine
