/-
  PromptEngine.Proofs.Engine.RenderSafety — data cannot write markup into a rendered text.

  A rendered text is made of one part for each block of the template.  Texts and values are the
  template's own words; the parts of variables and invocations are data, and unless they are
  trusted they are escaped exactly once (`renderBlock_contributes`).  So two renders of a template
  agree in their markup characters whatever engine, functions and arguments they are given.
  Main result: `renderTemplate_markup`.
-/
import Mathlib.Data.List.Forall2
import PromptEngine.Engine.Invoke
import PromptEngine.Proofs.Engine.Exec
import PromptEngine.Proofs.Text.Markup

namespace PromptEngine

open Markup

/-! ## §1. The parts of a rendered text. -/

namespace Operand

/-- The template's own words in an operand. -/
def verbatim : Operand → String
  | .value v => v.value
  | .variable _ => ""

/-- A text that an operand may stand for: its own words, or escaped data. -/
def Contributes (operand : Operand) (part : List Char) : Prop :=
  match operand with
  | .value v => part = v.value.toList
  | .variable _ => Escaped part

theorem Contributes.markup_eq {operand : Operand} {part : List Char}
    (h : operand.Contributes part) : markup part = markup operand.verbatim.toList := by
  cases operand with
  | value v => exact congrArg markup h
  | «variable» name => exact Escaped.markup_eq_nil h

end Operand

namespace Block

/-- The template's own words in a block. -/
def verbatim : Block → String
  | .text t => t
  | .value v => v.value
  | .namedArgument argument => argument.operand.node.verbatim
  | .variable _ | .invocation _ => ""

/-- A text that a block may stand for: its own words, or escaped data. -/
def Contributes (block : Block) (part : List Char) : Prop :=
  match block with
  | .text t => part = t.toList
  | .value v => part = v.value.toList
  | .namedArgument argument => argument.operand.node.Contributes part
  | .variable _ | .invocation _ => Escaped part

/-- Whatever a block stands for, its markup characters are those of its own words. -/
theorem Contributes.markup_eq {block : Block} {part : List Char} (h : block.Contributes part) :
    markup part = markup block.verbatim.toList := by
  cases block with
  | text t => exact congrArg markup h
  | value v => exact congrArg markup h
  | «variable» name => exact Escaped.markup_eq_nil h
  | namedArgument argument => exact Operand.Contributes.markup_eq h
  | invocation call => exact Escaped.markup_eq_nil h

/-- The block puts the value of the variable into the text. -/
def Shows (name : String) : Block → Prop
  | .variable other => other = name
  | .namedArgument argument => argument.operand.node = .variable name
  | .text _ | .value _ | .invocation _ => False

end Block

namespace Template

/-- The template's own words. -/
def verbatim (template : Template) : List Char :=
  template.blocks.flatMap fun block => block.node.verbatim.toList

/-- A text that is the template's own words with escaped data between them. -/
def Yields (template : Template) (out : String) : Prop :=
  ∃ parts : List (List Char),
    List.Forall₂ (fun block part => block.node.Contributes part) template.blocks parts ∧
      out.toList = parts.flatten

theorem markup_flatten {blocks : List (Spanned Block)} {parts : List (List Char)}
    (h : List.Forall₂ (fun block part => block.node.Contributes part) blocks parts) :
    markup parts.flatten = markup (blocks.flatMap fun block => block.node.verbatim.toList) := by
  induction h with
  | nil => rfl
  | cons hpart _ ih =>
      rw [List.flatten_cons, List.flatMap_cons, markup_append, markup_append, hpart.markup_eq, ih]

theorem Yields.markup_eq {template : Template} {out : String} (h : template.Yields out) :
    markup out.toList = markup template.verbatim := by
  obtain ⟨parts, hparts, hout⟩ := h
  rw [hout]
  exact markup_flatten hparts

end Template

namespace Engine

variable {σ : Type} {e : Engine σ} {invoke : Caller σ Outcome} {arguments : Arguments}
  {trust : Trust} {s s' : σ} {events : List Event}

/-! ## §2. What a render writes. -/

/-- Data that is not trusted is escaped. -/
theorem escaped_substitute {trusted : Bool} (h : trusted = false) (text : String) :
    Escaped (substitute trusted text).toList := by
  subst h
  show Escaped (String.ofList (escape text.toList)).toList
  rw [String.toList_ofList]
  exact escaped_escape text.toList

theorem escaped_renderVariable {name : String} (h : trust.trustsVariable name = false) :
    Escaped (renderVariable arguments trust name).toList := by
  unfold renderVariable
  cases arguments.getText? name with
  | none => exact .nil
  | some text => exact escaped_substitute h text

/-- An operand contributes its own words or, if its variable is not trusted, escaped data. -/
theorem renderOperand_contributes {operand : Operand} (heverything : trust.everything = false)
    (huntrusted : ∀ name, operand = .variable name → name ∉ trust.trusted) :
    operand.Contributes (renderOperand arguments trust operand).toList := by
  cases operand with
  | value v => exact rfl
  | «variable» name =>
      have hname : trust.trusted.contains name = false := by simpa using huntrusted name rfl
      -- Neither the whole render nor this variable is trusted.
      refine escaped_renderVariable ?_
      unfold Trust.trustsVariable
      rw [heverything, hname]
      rfl

theorem escaped_renderInvocation {call : Invocation} {part : String}
    (heverything : trust.everything = false)
    (h : e.renderInvocation invoke arguments trust call s = some (.ok part, s', events)) :
    Escaped part.toList := by
  unfold renderInvocation at h
  cases hprepare : e.prepareCall call arguments with
  | error error =>
      rw [hprepare] at h
      obtain ⟨hpart, -, -⟩ := Exec.pure_eq_some_iff.mp h
      contradiction
  | ok prepared =>
      obtain ⟨f, bound⟩ := prepared
      rw [hprepare] at h
      obtain ⟨error, -, hpart⟩ | ⟨outcome, s₁, first, rest, -, hrest, -⟩ :=
        Exec.orFail_eq_some_iff.mp h
      · contradiction
      · obtain ⟨hpart, -, -⟩ := Exec.pure_eq_some_iff.mp hrest
        injection hpart with hpart
        rw [hpart]
        exact escaped_substitute heverything outcome.text

/-- **One block.**  A block that is rendered contributes its own words or escaped data. -/
theorem renderBlock_contributes {block : Block} {part : String}
    (heverything : trust.everything = false)
    (huntrusted : ∀ name, block.Shows name → name ∉ trust.trusted)
    (h : e.renderBlock invoke arguments trust block s = some (.ok part, s', events)) :
    block.Contributes part.toList := by
  cases block with
  | text t =>
      obtain ⟨hpart, -, -⟩ := Exec.pure_eq_some_iff.mp h
      injection hpart with hpart
      exact congrArg String.toList hpart
  | value v =>
      obtain ⟨hpart, -, -⟩ := Exec.pure_eq_some_iff.mp h
      injection hpart with hpart
      exact congrArg String.toList hpart
  | «variable» name =>
      obtain ⟨hpart, -, -⟩ := Exec.pure_eq_some_iff.mp h
      injection hpart with hpart
      rw [hpart]
      have hname : ∀ other, Operand.variable name = .variable other → other ∉ trust.trusted :=
        fun other hother => huntrusted other (Operand.variable.inj hother)
      have hcontributes : (Operand.variable name).Contributes
          (renderOperand arguments trust (.variable name)).toList :=
        renderOperand_contributes heverything hname
      exact hcontributes
  | namedArgument argument =>
      obtain ⟨hpart, -, -⟩ := Exec.pure_eq_some_iff.mp h
      injection hpart with hpart
      rw [hpart]
      exact renderOperand_contributes heverything huntrusted
  | invocation call => exact escaped_renderInvocation heverything h

/-- **All blocks.**  Each contributes its part, in the order of the blocks. -/
theorem renderBlocks_contribute {raw : Spanned Block → String}
    (heverything : trust.everything = false) :
    ∀ (blocks : List (Spanned Block)) (out : String) (s : σ) (events : List Event),
      (∀ block ∈ blocks, ∀ name, block.node.Shows name → name ∉ trust.trusted) →
      e.renderBlocks invoke arguments trust raw blocks s = some (.ok out, s', events) →
      ∃ parts : List (List Char),
        List.Forall₂ (fun block part => block.node.Contributes part) blocks parts ∧
          out.toList = parts.flatten := by
  intro blocks
  induction blocks with
  | nil =>
      intro out s events _ h
      obtain ⟨hout, -, -⟩ := Exec.pure_eq_some_iff.mp h
      injection hout with hout
      exact ⟨[], .nil, by rw [hout]; rfl⟩
  | cons block blocks ih =>
      intro out s events huntrusted h
      obtain ⟨hblock, hblocks⟩ := List.forall_mem_cons.mp huntrusted
      obtain ⟨first, s₁, asked, rest, hfirst, hrest, -⟩ := Exec.bind_eq_some_iff.mp h
      cases first with
      | error error =>
          obtain ⟨hout, -, -⟩ := Exec.pure_eq_some_iff.mp hrest
          contradiction
      | ok part =>
          -- The rest is rendered too, since the whole render gave a text.
          obtain ⟨error, -, hout⟩ | ⟨more, s₂, second, last, hmore, hlast, -⟩ :=
            Exec.orFail_eq_some_iff.mp hrest
          · contradiction
          · obtain ⟨hout, hs, -⟩ := Exec.pure_eq_some_iff.mp hlast
            injection hout with hout
            subst hs
            obtain ⟨parts, hparts, hflatten⟩ := ih more s₁ second hblocks hmore
            refine ⟨part.toList :: parts,
              .cons (renderBlock_contributes heverything hblock hfirst) hparts, ?_⟩
            rw [hout, String.toList_append, List.flatten_cons, hflatten]

theorem renderTemplate_yields {template : Template} {out : String}
    (heverything : trust.everything = false)
    (huntrusted : ∀ block ∈ template.blocks, ∀ name, block.node.Shows name →
      name ∉ trust.trusted)
    (h : e.renderTemplate invoke template arguments trust s = some (.ok out, s', events)) :
    template.Yields out :=
  renderBlocks_contribute heverything template.blocks out s events huntrusted h

/-! ## §3. Two renders. -/

/-- **Data cannot write markup.**  Let nothing be trusted that the template puts into its text.
Then any two renders of the template that succeed, for whatever engines, functions, hooks, states
and arguments, agree in their markup characters, which are those of the template's own words; and
each text is these words with escaped data between them, in which an ampersand begins an entity. -/
theorem renderTemplate_markup {σ₁ σ₂ : Type} (e₁ : Engine σ₁) (e₂ : Engine σ₂)
    (invoke₁ : Caller σ₁ Outcome) (invoke₂ : Caller σ₂ Outcome) (template : Template)
    (trust : Trust) (arguments₁ arguments₂ : Arguments) (s₁ s₁' : σ₁) (s₂ s₂' : σ₂)
    (out₁ out₂ : String) (events₁ events₂ : List Event)
    (heverything : trust.everything = false)
    (huntrusted : ∀ block ∈ template.blocks, ∀ name, block.node.Shows name →
      name ∉ trust.trusted)
    (h₁ : e₁.renderTemplate invoke₁ template arguments₁ trust s₁
      = some (.ok out₁, s₁', events₁))
    (h₂ : e₂.renderTemplate invoke₂ template arguments₂ trust s₂
      = some (.ok out₂, s₂', events₂)) :
    markup out₁.toList = markup out₂.toList ∧
      markup out₁.toList = markup template.verbatim ∧
      template.Yields out₁ ∧ template.Yields out₂ := by
  have hyields₁ := renderTemplate_yields heverything huntrusted h₁
  have hyields₂ := renderTemplate_yields heverything huntrusted h₂
  refine ⟨?_, hyields₁.markup_eq, hyields₁, hyields₂⟩
  rw [hyields₁.markup_eq, hyields₂.markup_eq]

/-- A template that quotes a variable and the result of a function. -/
def page : Template :=
  { source := ""
    blocks := [⟨.text "<p title=\"", ⟨0, 0⟩⟩, ⟨.variable "name", ⟨0, 0⟩⟩, ⟨.text "\">", ⟨0, 0⟩⟩,
      ⟨.invocation { function := ⟨⟨none, "say"⟩, ⟨0, 0⟩⟩, positional := [], named := .empty },
        ⟨0, 0⟩⟩, ⟨.value ⟨"&</p>", .single⟩, ⟨0, 0⟩⟩] }

/-- An engine with a function that says a word. -/
def parrot (word : String) : Engine Unit :=
  { registry := (Registry.empty.register "birds"
      (.ofPure { name := "say" } fun _ => .ok (.string word))).2 }

theorem renderTemplate_markup_page :
    ∃ (out₁ out₂ : String) (events₁ events₂ : List Event),
      (parrot "<b>").renderTemplate ((parrot "<b>").caller 1) page
        (.ofList [("name", .string "\" onclick='&'")]) {} () = some (.ok out₁, (), events₁) ∧
      (parrot "hello").renderTemplate ((parrot "hello").caller 1) page {} {} ()
        = some (.ok out₂, (), events₂) ∧
      out₁ = "<p title=\"&quot; onclick=&apos;&amp;&apos;\">&lt;b&gt;&</p>" ∧
      out₂ = "<p title=\"\">hello&</p>" ∧
      markup out₁.toList = markup out₂.toList ∧
      markup out₁.toList = ['<', '"', '"', '>', '<', '>'] := by
  have hout₁ : ((parrot "<b>").renderTemplate ((parrot "<b>").caller 1) page
      (.ofList [("name", .string "\" onclick='&'")]) {} ()).bind (·.1.toOption)
        = some "<p title=\"&quot; onclick=&apos;&amp;&apos;\">&lt;b&gt;&</p>" := by
    decide +kernel
  have hout₂ : ((parrot "hello").renderTemplate ((parrot "hello").caller 1) page {} {} ()).bind
      (·.1.toOption) = some "<p title=\"\">hello&</p>" := by
    decide +kernel
  obtain ⟨⟨result₁, ⟨⟩, events₁⟩, hrun₁, hresult₁⟩ := Option.bind_eq_some_iff.mp hout₁
  obtain ⟨⟨result₂, ⟨⟩, events₂⟩, hrun₂, hresult₂⟩ := Option.bind_eq_some_iff.mp hout₂
  cases result₁ with
  | error error => contradiction
  | ok out₁ =>
      cases result₂ with
      | error error => contradiction
      | ok out₂ =>
          obtain ⟨hsame, hown, -, -⟩ :=
            renderTemplate_markup (parrot "<b>") (parrot "hello") ((parrot "<b>").caller 1)
              ((parrot "hello").caller 1) page {} (.ofList [("name", .string "\" onclick='&'")]) {}
              () () () () out₁ out₂ events₁ events₂ rfl (fun _ _ _ _ => List.not_mem_nil) hrun₁
              hrun₂
          exact ⟨out₁, out₂, events₁, events₂, hrun₁, hrun₂, Option.some.inj hresult₁,
            Option.some.inj hresult₂, hsame, hown⟩

end Engine

end PromptEngine
