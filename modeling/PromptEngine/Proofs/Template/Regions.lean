/-
  PromptEngine.Proofs.Template.Regions — which parts of a template are code regions.

  §1 says what the regions of a template are, without a scanner.  From a position on, the first
  two opening braces are looked for, and behind them complete literals are stepped over up to the
  first two closing braces outside a literal.  The region begins at the last two opening braces
  before these, and the next region is looked for behind it.  It also says what a region is read as:
  whatever stands between the blanks at the ends of its interior, if anything does.

  The scanner is one pass over the characters and never looks back.  Main facts:

    • `cut_of_first` — if a text has a first region, the scanner cuts it off first,
    • `exists_first_of_region` — if the scanner cuts off a region at all, the text has a first one,
    • `readsRegion_iff` — the block of a region is what the region is read as,
    • `Template.parse_eq_readRegions` — reading a template is reading its regions one by one and
      keeping the text between them.
-/
import Mathlib
import PromptEngine.Proofs.Template.Lexemes

namespace PromptEngine

namespace Region

open Piece

/-! ## §1. The rule. -/

/-- What is met one after the other behind opening braces: a whole literal, or one character that
opens no literal. -/
inductive Step where
  | char (c : Char)
  | literal (quote : Quote) (body : List Char)
  deriving DecidableEq, Repr

/-- The characters that are stepped over. -/
def Step.raw : Step → List Char
  | .char c => [c]
  | .literal quote body => quote.char :: (body ++ [quote.char])

/-- A quote opens a literal, and a literal ends at the first quote that nothing protects. -/
def Step.Complete : Step → Prop
  | .char c => isQuote c = false
  | .literal quote body => Literal.Enclosed quote.char body

/-- The text that is stepped over. -/
def spell (steps : List Step) : List Char :=
  steps.flatMap Step.raw

/-- Two opening braces outside a literal. -/
def opening : List Step := [.char '{', .char '{']

/-- Two closing braces outside a literal. -/
def closing : List Step := [.char '}', .char '}']

/-- A text is read to the end of its first region: `before` stands before the first two opening
braces, `steps` between these and the first two closing braces outside a literal, and `rest`
behind them. -/
structure Reads (text before : List Char) (steps : List Step) (rest : List Char) : Prop where
  text_eq : text = before ++ '{' :: '{' :: (spell steps ++ '}' :: '}' :: rest)
  opens : ¬ ['{', '{'] <:+: before ++ ['{']
  complete : ∀ step ∈ steps, step.Complete
  closes : ¬ closing <:+: steps ++ [.char '}']

/-- Of what is read, `inner` stands behind the last two opening braces outside a literal and
`skipped` before them. -/
structure LastOpening (steps skipped inner : List Step) : Prop where
  steps_eq : opening ++ steps = skipped ++ opening ++ inner
  last : ¬ opening <:+: .char '{' :: inner

/-- The first region of a text: `front` stands before it, `interior` between its braces and `rest`
behind it. -/
def First (text front interior rest : List Char) : Prop :=
  ∃ before steps skipped inner, Reads text before steps rest ∧ LastOpening steps skipped inner ∧
    front = before ++ spell skipped ∧ interior = spell inner

/-- The first region at byte `pos` of a template or behind it. -/
def IsNext (source : List Char) (pos : Nat) (span : Span) : Prop :=
  ∃ front interior rest, First (dropBytes pos source) front interior rest ∧
    span.start = pos + byteSize front ∧ span.stop = span.start + 2 + byteSize interior + 2

/-- The regions of a template from byte `pos` on. -/
inductive Regions (source : List Char) : Nat → List Span → Prop
  | last {pos : Nat} (h : ∀ span, ¬ IsNext source pos span) : Regions source pos []
  | next {pos : Nat} {span : Span} {spans : List Span} (h : IsNext source pos span)
      (more : Regions source span.stop spans) : Regions source pos (span :: spans)

/-- Plain text is one block, unless it is empty. -/
def textBlocks (source : List Char) (span : Span) : List (Spanned Block) :=
  if span.start < span.stop then [⟨.text (String.ofList (slice source span)), span⟩] else []

/-- What stands between the braces of a region. -/
def interior (source : List Char) (region : Span) : List Char :=
  slice source ⟨region.start + 2, region.stop - 2⟩

/-- Nothing but blanks stands between the braces of the region. -/
def Blank (source : List Char) (region : Span) : Prop :=
  ∀ c ∈ interior source region, isBlank c = true

/-- `code` is the text without the blanks at its ends, and `front` are those before it. -/
structure Trimmed (text front code : List Char) : Prop where
  text_eq : ∃ back, text = front ++ code ++ back ∧ ∀ c ∈ back, isBlank c = true
  front_blank : ∀ c ∈ front, isBlank c = true
  head : ∀ c ∈ code.head?, isBlank c = false
  last : ∀ c ∈ code.getLast?, isBlank c = false

/-- What a region is read as: a blank one as text, braces included, and any other one as the code
between its blanks, at the place where that stands. -/
inductive ReadsRegion (source : List Char) (span : Span) :
    Except SyntaxError (Spanned Block) → Prop
  | blank (h : Blank source span) :
      ReadsRegion source span (.ok ⟨.text (String.ofList (slice source span)), span⟩)
  | code {front code : List Char} (h : Trimmed (interior source span) front code)
      (hcode : code ≠ []) :
      ReadsRegion source span
        ((Code.parse (String.ofList code) (span.start + 2 + byteSize front)).map (⟨·, span⟩))

/-- What stands between the braces of a region, without the blanks at its ends, is read as code at
its own place. -/
def readInterior (source : List Char) (region : Span) : Except SyntaxError Block :=
  Code.parse (String.ofList (trimBlanks (interior source region)))
    (region.start + 2 + byteSize ((interior source region).takeWhile isBlank))

/-- The block of a region: its interior without the blanks at its ends is read as code, and if
nothing is left of it, the whole region is text. -/
def regionBlock (source : List Char) (span : Span) : Except SyntaxError (Spanned Block) := do
  if trimBlanks (interior source span) = [] then
    return ⟨.text (String.ofList (slice source span)), span⟩
  let block ← readInterior source span
  return ⟨block, span⟩

/-- The blocks of a template from byte `pos` on: those of its regions, and the text before, between
and behind them.  The first region that cannot be read decides the error. -/
def readRegions (source : List Char) (pos : Nat) :
    List Span → Except SyntaxError (List (Spanned Block))
  | [] => return textBlocks source ⟨pos, byteSize source⟩
  | span :: spans => do
    let block ← regionBlock source span
    let more ← readRegions source span.stop spans
    return textBlocks source ⟨pos, span.start⟩ ++ block :: more

/-! ## §2. What regions are read as. -/

namespace Trimmed

variable {text front code : List Char}

/-- Where no blank stands first, none is passed over. -/
theorem dropWhile_eq {text : List Char} (h : ∀ c ∈ text.head?, isBlank c = false) :
    text.dropWhile isBlank = text := by
  cases text with
  | nil => rfl
  | cons c text => exact List.dropWhile_cons_of_neg (Bool.eq_false_iff.mp (h c rfl))

theorem trimBlanks_eq (h : Trimmed text front code) : trimBlanks text = code := by
  obtain ⟨back, rfl, hback⟩ := h.text_eq
  have hlast : ∀ c ∈ code.reverse.head?, isBlank c = false := by
    rw [List.head?_reverse]
    exact h.last
  rw [trimBlanks_append h.front_blank hback, trimBlanks, dropWhile_eq h.head, dropWhile_eq hlast,
    List.reverse_reverse]

theorem takeWhile_eq (h : Trimmed text front code) (hcode : code ≠ []) :
    text.takeWhile isBlank = front := by
  have htrim := h.trimBlanks_eq
  obtain ⟨back, rfl, hback⟩ := h.text_eq
  rw [trimBlanks_append h.front_blank hback] at htrim
  rw [takeWhile_append_blanks h.front_blank (by rwa [htrim])]
  obtain ⟨c, rest, rfl⟩ := List.exists_cons_of_ne_nil hcode
  rw [List.takeWhile_cons_of_neg (Bool.eq_false_iff.mp (h.head c rfl)), List.append_nil]

end Trimmed

/-- The first character that is passed on to is no blank. -/
theorem isBlank_head?_dropWhile (text : List Char) :
    ∀ c ∈ (text.dropWhile isBlank).head?, isBlank c = false := by
  intro c hc
  have hnot := List.head?_dropWhile_not isBlank text
  rw [hc] at hnot
  exact hnot

/-- **Trimming leaves the text without the blanks at its ends.** -/
theorem trimmed_trimBlanks (text : List Char) (h : trimBlanks text ≠ []) :
    Trimmed text (text.takeWhile isBlank) (trimBlanks text) := by
  obtain ⟨blanks, hblanks, htext⟩ := eq_append_trimBlanks text
  refine ⟨⟨blanks, by rwa [List.append_assoc], hblanks⟩,
    fun c hc => List.mem_takeWhile_imp hc, fun c hc => ?_, fun c hc => ?_⟩
  · -- What is left begins where the first blanks end.
    have hdrop : text.dropWhile isBlank = trimBlanks text ++ blanks :=
      List.append_cancel_left
        ((List.takeWhile_append_dropWhile (p := isBlank) (l := text)).trans htext)
    refine isBlank_head?_dropWhile text c ?_
    rw [hdrop, List.head?_append_of_ne_nil _ h]
    exact hc
  · rw [trimBlanks, List.getLast?_reverse] at hc
    exact isBlank_head?_dropWhile _ c hc

/-- A region that is not blank is what its interior is read as. -/
theorem regionBlock_eq_readInterior {source : List Char} {region : Span}
    (h : ¬ Blank source region) :
    regionBlock source region = (readInterior source region).map (⟨·, region⟩) := by
  unfold regionBlock
  rw [if_neg (mt trimBlanks_eq_nil_iff.mp h)]
  cases readInterior source region <;> rfl

/-- A blank region is text, and that cannot fail. -/
theorem regionBlock_of_blank {source : List Char} {region : Span} (h : Blank source region) :
    regionBlock source region = .ok ⟨.text (String.ofList (slice source region)), region⟩ := by
  unfold regionBlock
  rw [if_pos (trimBlanks_eq_nil_iff.mpr h)]
  rfl

/-- **A region is read in one way**, and this is how it is read. -/
theorem readsRegion_iff {source : List Char} {span : Span}
    {outcome : Except SyntaxError (Spanned Block)} :
    ReadsRegion source span outcome ↔ regionBlock source span = outcome := by
  constructor
  · intro h
    cases h with
    | blank hblank => exact regionBlock_of_blank hblank
    | code htrimmed hcode =>
        have hblank : ¬ Blank source span := fun hblank =>
          hcode (htrimmed.trimBlanks_eq.symm.trans (trimBlanks_eq_nil_iff.mpr hblank))
        rw [regionBlock_eq_readInterior hblank, readInterior, htrimmed.trimBlanks_eq,
          htrimmed.takeWhile_eq hcode]
  · rintro rfl
    by_cases hblank : Blank source span
    · rw [regionBlock_of_blank hblank]
      exact .blank hblank
    · have hcode : trimBlanks (interior source span) ≠ [] := mt trimBlanks_eq_nil_iff.mp hblank
      rw [regionBlock_eq_readInterior hblank]
      exact .code (trimmed_trimBlanks _ hcode) hcode

/-! ## §3. Steps and characters. -/

@[simp] theorem spell_nil : spell [] = [] := rfl

@[simp] theorem spell_cons (step : Step) (steps : List Step) :
    spell (step :: steps) = step.raw ++ spell steps := rfl

@[simp] theorem spell_append (a b : List Step) : spell (a ++ b) = spell a ++ spell b := by
  simp [spell]

theorem isQuote_char (quote : Quote) : isQuote quote.char = true := by
  cases quote <;> rfl

/-- A character that is no quote is a step of its own. -/
theorem spell_append_eq_cons {steps : List Step} {tail more : List Char} {c : Char}
    (h : spell steps ++ tail = c :: more) (hc : isQuote c = false) :
    steps = [] ∧ tail = c :: more ∨
      ∃ later, steps = .char c :: later ∧ spell later ++ tail = more := by
  cases steps with
  | nil => exact .inl ⟨rfl, h⟩
  | cons step later =>
      cases step with
      | char d =>
          obtain ⟨rfl, hmore⟩ := List.cons.inj h
          exact .inr ⟨later, rfl, hmore⟩
      | literal quote body =>
          obtain ⟨rfl, -⟩ := List.cons.inj h
          rw [isQuote_char] at hc
          exact Bool.noConfusion hc

/-- The scanner steps over a whole literal. -/
theorem cutFrom_literalStep {quote : Quote} {body : List Char}
    (h : Literal.Enclosed quote.char body) (before interior : List Char) {rest : List Char}
    (hrest : rest ≠ []) :
    cutFrom .inside before interior ((Step.literal quote body).raw ++ rest)
      = cutFrom .inside before ((Step.literal quote body).raw.reverse ++ interior) rest := by
  show cutFrom .inside before interior (quote.char :: ((body ++ [quote.char]) ++ rest)) = _
  rw [List.append_assoc, List.singleton_append, cutFrom_quote before interior quote (by simp),
    cutFrom_enclosed h before hrest]
  simp [Step.raw]

/-! ## §4. The scanner finds the last opening braces. -/

/-- A brace outside a literal and the same brace behind it are two steps. -/
theorem pair_infix_of_spell {brace : Char} {steps : List Step} {tail more : List Char}
    (hbrace : isQuote brace = false) (h : spell steps ++ tail = brace :: more)
    (htail : tail.head? ≠ some brace) :
    [.char brace, .char brace] <:+: Step.char brace :: steps := by
  obtain ⟨-, htail'⟩ | ⟨later, rfl, -⟩ := spell_append_eq_cons h hbrace
  · rw [htail'] at htail
    exact absurd rfl htail
  · exact (List.prefix_append [.char brace, .char brace] later).isInfix

mutual

/-- Standing at two opening braces, the scanner holds all back as text when it gets to others. -/
theorem cutFrom_skipped_outside (tail : List Char) (steps : List Step)
    (hcomplete : ∀ step ∈ steps, step.Complete) (hclose : ¬ closing <:+: steps)
    (hopen : ['{', '{'] <+: spell steps ++ '{' :: '{' :: tail) (before : List Char) :
    cutFrom .outside before [] (spell steps ++ '{' :: '{' :: tail)
      = cutFrom .outside ((spell steps).reverse ++ before) [] ('{' :: '{' :: tail) := by
  obtain ⟨more, hmore⟩ := hopen
  replace hmore : spell steps ++ '{' :: '{' :: tail = '{' :: '{' :: more := hmore.symm
  obtain ⟨rfl, -⟩ | ⟨later, rfl, hlater⟩ := spell_append_eq_cons hmore rfl
  · rfl
  have hcomplete' : ∀ step ∈ later, step.Complete := fun s hs =>
    hcomplete s (List.mem_cons_of_mem _ hs)
  have hclose' : ¬ closing <:+: later := fun h => hclose (List.infix_cons h)
  rw [hmore]
  by_cases hthird : more.head? = some '{'
  · -- Of three braces in a row the first is text, and the scanner stands at the other two.
    obtain ⟨more, rfl⟩ := List.head?_eq_some_iff.1 hthird
    rw [cutFrom_three, ← hlater, cutFrom_skipped_outside tail later hcomplete' hclose'
      ⟨more, hlater.symm⟩]
    simp [Step.raw]
  · rw [cutFrom_open before hthird]
    obtain ⟨-, htail⟩ | ⟨inner, rfl, hinner⟩ := spell_append_eq_cons hlater rfl
    · obtain ⟨-, rfl⟩ := List.cons.inj htail
      exact absurd rfl hthird
    · rw [← hinner, cutFrom_skipped_inside tail inner
        (fun s hs => hcomplete' s (List.mem_cons_of_mem _ hs))
        (fun h => hclose' (List.infix_cons h))]
      simp [Step.raw]
termination_by 2 * steps.length

/-- Inside a region, the scanner gives up the region when it gets to two opening braces. -/
theorem cutFrom_skipped_inside (tail : List Char) (steps : List Step)
    (hcomplete : ∀ step ∈ steps, step.Complete) (hclose : ¬ closing <:+: steps)
    (before interior : List Char) :
    cutFrom .inside before interior (spell steps ++ '{' :: '{' :: tail)
      = cutFrom .outside ((spell steps).reverse ++ (interior ++ '{' :: '{' :: before)) []
          ('{' :: '{' :: tail) := by
  by_cases hopen : ['{', '{'] <+: spell steps ++ '{' :: '{' :: tail
  -- Two braces stand here: the region begins anew, as it would from outside.
  · rw [← cutFrom_skipped_outside tail steps hcomplete hclose hopen]
    obtain ⟨more, hmore⟩ := hopen
    rw [← hmore]
    exact cutFrom_reopen before interior more
  · cases steps with
    | nil => exact absurd ⟨tail, rfl⟩ hopen
    | cons step steps =>
        obtain ⟨hstep, hcomplete'⟩ := List.forall_mem_cons.1 hcomplete
        have hclose' : ¬ closing <:+: steps := fun h => hclose (List.infix_cons h)
        have hrest : spell steps ++ '{' :: '{' :: tail ≠ [] := by simp
        rw [spell_cons, List.append_assoc]
        cases step with
        | char c =>
            obtain ⟨d, more, hmore⟩ := List.exists_cons_of_ne_nil hrest
            have hpair : ¬ (c = '{' ∧ d = '{') := by
              rintro ⟨rfl, rfl⟩
              refine hopen ⟨more, ?_⟩
              rw [spell_cons, List.append_assoc, hmore]
              rfl
            have hends : ¬ (c = '}' ∧ d = '}') := by
              rintro ⟨rfl, rfl⟩
              exact hclose (pair_infix_of_spell rfl hmore (by simp))
            show cutFrom .inside before interior (c :: (spell steps ++ '{' :: '{' :: tail)) = _
            rw [hmore, cutFrom_pass before interior more hpair hends hstep, ← hmore,
              cutFrom_skipped_inside tail steps hcomplete' hclose']
            simp [Step.raw]
        | literal quote body =>
            rw [cutFrom_literalStep hstep before interior hrest,
              cutFrom_skipped_inside tail steps hcomplete' hclose']
            simp
termination_by 2 * steps.length + 1

end

/-- Behind the last opening braces the scanner reads on up to the closing ones. -/
theorem cutFrom_inner (before rest : List Char) (steps : List Step)
    (hcomplete : ∀ step ∈ steps, step.Complete) (hopen : ¬ opening <:+: steps)
    (hclose : ¬ closing <:+: steps ++ [.char '}']) (interior : List Char) :
    cutFrom .inside before interior (spell steps ++ '}' :: '}' :: rest)
      = plain? before ++ .region (interior.reverse ++ spell steps) :: cut rest := by
  induction steps generalizing interior with
  | nil => simpa [cut] using cutFrom_close before interior rest
  | cons step steps ih =>
      obtain ⟨hstep, hcomplete'⟩ := List.forall_mem_cons.1 hcomplete
      have ih' := ih hcomplete' (fun h => hopen (List.infix_cons h))
        (fun h => hclose (List.infix_cons h))
      have hrest : spell steps ++ '}' :: '}' :: rest ≠ [] := by simp
      rw [spell_cons, List.append_assoc]
      cases step with
      | char c =>
          obtain ⟨d, more, hmore⟩ := List.exists_cons_of_ne_nil hrest
          have hpair : ¬ (c = '{' ∧ d = '{') := by
            rintro ⟨rfl, rfl⟩
            exact hopen (pair_infix_of_spell rfl hmore (by simp))
          have hends : ¬ (c = '}' ∧ d = '}') := by
            rintro ⟨rfl, rfl⟩
            -- The first of the closing braces counts as a step here.
            have hmore' : spell (steps ++ [.char '}']) ++ '}' :: rest = '}' :: more := by
              simpa [Step.raw] using hmore
            obtain ⟨hnil, -⟩ | ⟨later, hlater, -⟩ := spell_append_eq_cons hmore' rfl
            · simp at hnil
            · refine hclose ?_
              rw [List.cons_append, hlater]
              exact (List.prefix_append closing later).isInfix
          show cutFrom .inside before interior (c :: (spell steps ++ '}' :: '}' :: rest)) = _
          rw [hmore, cutFrom_pass before interior more hpair hends hstep, ← hmore, ih']
          simp [Step.raw]
      | literal quote body =>
          rw [cutFrom_literalStep hstep before interior hrest, ih']
          simp

/-- All that is read is complete, the opening braces included. -/
theorem LastOpening.complete {steps skipped inner : List Step}
    (h : LastOpening steps skipped inner) (hcomplete : ∀ step ∈ steps, step.Complete) :
    ∀ step ∈ skipped ++ opening ++ inner, step.Complete := by
  rw [← h.steps_eq]
  intro step hstep
  rcases List.mem_append.1 hstep with hmem | hmem
  · simp only [opening, List.mem_cons, List.not_mem_nil, or_false, or_self] at hmem
    rw [hmem]
    rfl
  · exact hcomplete step hmem

/-- A region stands between its braces. -/
theorem First.text_eq {text front interior rest : List Char}
    (h : First text front interior rest) :
    text = front ++ '{' :: '{' :: (interior ++ '}' :: '}' :: rest) := by
  obtain ⟨before, steps, skipped, inner, hreads, hlast, rfl, rfl⟩ := h
  have hspell := congrArg spell hlast.steps_eq
  simp only [spell_append] at hspell
  rw [hreads.text_eq, List.append_assoc, List.append_cancel_left_eq]
  simpa [opening, Step.raw] using congrArg (· ++ '}' :: '}' :: rest) hspell

/-- **The first region of a text is what the scanner cuts off first.** -/
theorem cut_of_first {text front interior rest : List Char} (h : First text front interior rest) :
    cut text = plain? front.reverse ++ .region interior :: cut rest := by
  obtain ⟨before, steps, skipped, inner, hreads, hlast, rfl, rfl⟩ := h
  have hspell : '{' :: '{' :: (spell steps ++ '}' :: '}' :: rest)
      = spell skipped ++ '{' :: '{' :: (spell inner ++ '}' :: '}' :: rest) := by
    have := congrArg (spell · ++ '}' :: '}' :: rest) hlast.steps_eq
    simpa [opening, Step.raw] using this
  have hcomplete := hlast.complete hreads.complete
  -- Neither before nor behind the last opening braces do two closing braces come together.
  have hclose : ¬ closing <:+: skipped ++ opening ++ (inner ++ [.char '}']) := by
    rw [← List.append_assoc, ← hlast.steps_eq, List.append_assoc]
    have := hreads.closes
    simp [opening, closing, List.infix_cons_iff] at this ⊢
    exact this
  have hskipped : ¬ closing <:+: skipped := fun hin =>
    hclose (hin.trans ⟨[], opening ++ (inner ++ [.char '}']), by simp⟩)
  have hinner : ¬ closing <:+: inner ++ [.char '}'] := fun hin =>
    hclose (hin.trans ⟨skipped ++ opening, [], by simp⟩)
  have hhead : (spell inner ++ '}' :: '}' :: rest).head? ≠ some '{' := by
    intro hhead
    obtain ⟨more, hmore⟩ := List.head?_eq_some_iff.1 hhead
    exact hlast.last (pair_infix_of_spell rfl hmore (by simp))
  have hbefore : ¬ ['{', '{'] <:+: before := fun hin =>
    hreads.opens (hin.trans (List.prefix_append before ['{']).isInfix)
  have hopens : ['{', '{'] <+: '{' :: '{' :: (spell steps ++ '}' :: '}' :: rest) := ⟨_, rfl⟩
  rw [cut, hreads.text_eq, cutFrom_text _ (.inr hopens) before [] hbefore, hspell,
    cutFrom_skipped_outside _ skipped
      (fun s hs => hcomplete s (List.mem_append_left _ (List.mem_append_left _ hs))) hskipped
      (hspell ▸ hopens),
    cutFrom_open _ hhead,
    cutFrom_inner _ rest inner (fun s hs => hcomplete s (List.mem_append_right _ hs))
      (fun hin => hlast.last (List.infix_cons hin)) hinner]
  simp

/-! ## §5. The scanner finds no other regions. -/

/-- A text in which steps lead to two closing braces, the first ones outside a literal. -/
def Closes (text : List Char) : Prop :=
  ∃ steps rest, (∀ step ∈ steps, step.Complete) ∧ ¬ closing <:+: steps ++ [.char '}'] ∧
    text = spell steps ++ '}' :: '}' :: rest

theorem Closes.nil (rest : List Char) : Closes ('}' :: '}' :: rest) :=
  ⟨[], rest, by simp, by decide, rfl⟩

/-- A character that opens no literal is stepped over. -/
theorem Closes.char {c : Char} {text : List Char} (hquote : isQuote c = false)
    (hends : ¬ (c = '}' ∧ text.head? = some '}')) (h : Closes text) : Closes (c :: text) := by
  obtain ⟨steps, rest, hcomplete, hclose, rfl⟩ := h
  refine ⟨.char c :: steps, rest, List.forall_mem_cons.2 ⟨hquote, hcomplete⟩, ?_, rfl⟩
  intro hin
  rcases List.infix_cons_iff.1 hin with hprefix | hin
  · -- Two closing braces at the front would be the first ones.
    obtain ⟨hc, hprefix⟩ := List.cons_prefix_cons.1 hprefix
    obtain ⟨more, hmore⟩ := hprefix
    refine hends ⟨(Step.char.inj hc).symm, ?_⟩
    cases steps with
    | nil => rfl
    | cons step steps =>
        obtain ⟨rfl, -⟩ := List.cons.inj hmore
        rfl
  · exact hclose hin

/-- A whole literal is stepped over. -/
theorem Closes.literal {quote : Quote} {body text : List Char}
    (hbody : Literal.Enclosed quote.char body) (h : Closes text) :
    Closes (quote.char :: (body ++ quote.char :: text)) := by
  obtain ⟨steps, rest, hcomplete, hclose, rfl⟩ := h
  refine ⟨.literal quote body :: steps, rest, List.forall_mem_cons.2 ⟨hbody, hcomplete⟩, ?_,
    by simp [Step.raw]⟩
  intro hin
  rcases List.infix_cons_iff.1 hin with hprefix | hin
  · exact Step.noConfusion (List.cons_prefix_cons.1 hprefix).1
  · exact hclose hin

mutual

/-- If the scanner, standing at two opening braces, comes to cut off a region, then these braces
are followed by closing ones. -/
theorem closes_of_region_open {found : List Char} :
    ∀ (text before : List Char),
      Piece.region found ∈ cutFrom .outside before [] ('{' :: '{' :: text) → Closes text
  | text, before, h => by
      by_cases hthird : text.head? = some '{'
      · obtain ⟨more, rfl⟩ := List.head?_eq_some_iff.1 hthird
        rw [cutFrom_three] at h
        exact (closes_of_region_open more ('{' :: before) h).char rfl (by simp)
      · rw [cutFrom_open before hthird] at h
        exact closes_of_region_inside text before [] h
termination_by text => 2 * text.length + 1

/-- If the scanner comes to cut off a region that it is inside of, then the region is closed. -/
theorem closes_of_region_inside {found : List Char} :
    ∀ (text before interior : List Char),
      Piece.region found ∈ cutFrom .inside before interior text → Closes text
  | [], _, _, h => absurd h not_region_mem_plain?
  | [_], _, _, h => absurd h not_region_mem_plain?
  | c :: d :: text, before, interior, h => by
      by_cases hopen : c = '{' ∧ d = '{'
      · obtain ⟨rfl, rfl⟩ := hopen
        rw [cutFrom_reopen] at h
        have htext := closes_of_region_open text _ h
        exact (htext.char rfl (by simp)).char rfl (by simp)
      by_cases hends : c = '}' ∧ d = '}'
      · obtain ⟨rfl, rfl⟩ := hends
        exact Closes.nil text
      by_cases hquote : isQuote c = true
      · obtain ⟨quote, rfl⟩ : ∃ quote : Quote, quote.char = c := by
          simp only [isQuote, Bool.or_eq_true, beq_iff_eq] at hquote
          rcases hquote with rfl | rfl
          · exact ⟨.single, rfl⟩
          · exact ⟨.double, rfl⟩
        rw [cutFrom_quote before interior quote (by simp)] at h
        obtain ⟨body, rest, hsplit, hbody, hregion⟩ := enclosed_of_region (d :: text) _ h
        have hlength : rest.length < text.length + 1 := by
          have := congrArg List.length hsplit
          simp only [List.length_append, List.length_cons] at this
          omega
        rw [hsplit]
        exact (closes_of_region_inside rest before _ hregion).literal hbody
      · have hquote' : isQuote c = false := by simpa using hquote
        rw [cutFrom_pass before interior text hopen hends hquote'] at h
        exact (closes_of_region_inside (d :: text) before _ h).char hquote' (by simpa using hends)
termination_by text => 2 * text.length

end

/-- If the scanner comes to cut off a region, then it finds opening braces, and the first ones of
these are followed by closing ones. -/
theorem opens_of_region {found : List Char} :
    ∀ (text before : List Char), Piece.region found ∈ cutFrom .outside before [] text →
      ∃ lead more, text = lead ++ '{' :: '{' :: more ∧ ¬ ['{', '{'] <:+: lead ++ ['{'] ∧
        Closes more
  | [], _, h => absurd h not_region_mem_plain?
  | c :: text, before, h => by
      by_cases hopen : ['{', '{'] <+: c :: text
      · obtain ⟨more, hmore⟩ := hopen
        rw [← hmore] at h ⊢
        exact ⟨[], more, rfl, by decide, closes_of_region_open more before h⟩
      · rw [cutFrom_outside before c text hopen] at h
        obtain ⟨lead, more, rfl, hlead, hcloses⟩ := opens_of_region text (c :: before) h
        refine ⟨c :: lead, more, rfl, ?_, hcloses⟩
        intro hin
        rcases List.infix_cons_iff.1 hin with hprefix | hin
        · refine hopen ?_
          have : lead ++ ['{'] <+: lead ++ '{' :: '{' :: more := ⟨'{' :: more, by simp⟩
          exact hprefix.trans (List.cons_prefix_cons.2 ⟨rfl, this⟩)
        · exact hlead hin

/-- Among what is read behind opening braces there are last opening braces. -/
theorem exists_lastOpening (steps : List Step) :
    ∃ skipped inner, LastOpening steps skipped inner := by
  by_cases hin : opening <:+: .char '{' :: steps
  · obtain ⟨front, later, heq⟩ := hin
    have hlength : later.length < steps.length := by
      have := congrArg List.length heq
      simp [opening] at this
      omega
    obtain ⟨skipped, inner, hlast⟩ := exists_lastOpening later
    refine ⟨.char '{' :: front ++ skipped, inner, ⟨?_, hlast.last⟩⟩
    calc opening ++ steps = .char '{' :: (.char '{' :: steps) := rfl
      _ = .char '{' :: (front ++ (opening ++ later)) := by rw [← heq, List.append_assoc]
      _ = .char '{' :: front ++ skipped ++ opening ++ inner := by
          rw [hlast.steps_eq]
          simp
  · exact ⟨[], steps, rfl, hin⟩
termination_by steps.length

/-- **If the scanner cuts off a region, the text has a first one.** -/
theorem exists_first_of_region {text found : List Char} (h : Piece.region found ∈ cut text) :
    ∃ front interior rest, First text front interior rest := by
  obtain ⟨lead, more, rfl, hlead, steps, rest, hcomplete, hclose, rfl⟩ :=
    opens_of_region text [] h
  obtain ⟨skipped, inner, hlast⟩ := exists_lastOpening steps
  exact ⟨_, _, rest, lead, steps, skipped, inner, ⟨rfl, hlead, hcomplete, hclose⟩, hlast, rfl, rfl⟩

/-- A scanner that cuts off no region takes the text for one piece. -/
theorem cutFrom_of_no_region {mode : Mode} {before interior text : List Char}
    (h : ∀ found, Piece.region found ∉ cutFrom mode before interior text) :
    cutFrom mode before interior text = plain? (text.reverse ++ held mode before interior) := by
  fun_induction cutFrom mode before interior text
  case case9 =>
    -- Here a region is cut off.
    exact absurd (List.mem_append_right _ List.mem_cons_self) (h _)
  all_goals simp_all [held]

/-- A text without a first region is one piece. -/
theorem cut_of_no_first {text : List Char}
    (h : ∀ front interior rest, ¬ First text front interior rest) :
    cut text = plain? text.reverse := by
  have hno : ∀ found, Piece.region found ∉ cut text := by
    intro found hfound
    obtain ⟨front, interior, rest, hfirst⟩ := exists_first_of_region hfound
    exact h front interior rest hfirst
  rw [cut, cutFrom_of_no_region hno]
  simp [held]

/-! ## §6. The regions of a template. -/

/-- A text has at most one first region. -/
theorem First.unique {text front interior rest front' interior' rest' : List Char}
    (h : First text front interior rest) (h' : First text front' interior' rest') :
    front = front' ∧ interior = interior' := by
  have heq : plain? front.reverse ++ .region interior :: cut rest
      = plain? front'.reverse ++ .region interior' :: cut rest' := by
    rw [← cut_of_first h, ← cut_of_first h']
  cases front using List.reverseRecOn <;> cases front' using List.reverseRecOn <;>
    simp_all [plain?]

theorem IsNext.unique {source : List Char} {pos : Nat} {span span' : Span}
    (h : IsNext source pos span) (h' : IsNext source pos span') : span' = span := by
  obtain ⟨front, interior, rest, hfirst, hstart, hstop⟩ := h
  obtain ⟨front', interior', rest', hfirst', hstart', hstop'⟩ := h'
  obtain ⟨rfl, rfl⟩ := hfirst.unique hfirst'
  obtain ⟨start, stop⟩ := span
  obtain ⟨start', stop'⟩ := span'
  simp only at hstart hstop hstart' hstop'
  rw [hstart', hstop', hstart', hstop, hstart]

/-- The regions of a template are determined. -/
theorem Regions.unique {source : List Char} {pos : Nat} {spans others : List Span}
    (h : Regions source pos spans) (h' : Regions source pos others) : others = spans := by
  induction h generalizing others with
  | last hnone =>
      cases h' with
      | last _ => rfl
      | next hnext _ => exact absurd hnext (hnone _)
  | next hnext _ ih =>
      cases h' with
      | last hnone => exact absurd hnext (hnone _)
      | next hnext' hmore' =>
          obtain rfl := hnext.unique hnext'
          rw [ih hmore']

theorem byteSize_region (interior : List Char) :
    byteSize (Piece.region interior).raw = 2 + byteSize interior + 2 := by
  simp only [Piece.raw, byteSize_cons, byteSize_append, byteSize_nil,
    show '{'.utf8Size = 1 from rfl, show '}'.utf8Size = 1 from rfl]
  omega

/-- Behind a part of a template that has been read, the next region is the first one of the rest. -/
theorem isNext_append_iff {seen text : List Char} {span : Span} :
    IsNext (seen ++ text) (byteSize seen) span ↔
      ∃ front interior rest, First text front interior rest ∧
        span = ⟨byteSize (seen ++ front),
          byteSize (seen ++ front ++ (Piece.region interior).raw)⟩ := by
  obtain ⟨start, stop⟩ := span
  simp only [IsNext, dropBytes_append, Span.mk.injEq, byteSize_append _ (Piece.raw _),
    byteSize_region, byteSize_append seen]
  constructor
  · rintro ⟨front, interior, rest, hfirst, rfl, rfl⟩
    exact ⟨front, interior, rest, hfirst, rfl, by omega⟩
  · rintro ⟨front, interior, rest, hfirst, rfl, rfl⟩
    exact ⟨front, interior, rest, hfirst, rfl, by omega⟩

/-- A template has regions, from any place on. -/
theorem exists_regions (seen text : List Char) :
    ∃ spans, Regions (seen ++ text) (byteSize seen) spans := by
  by_cases h : ∃ span, IsNext (seen ++ text) (byteSize seen) span
  · obtain ⟨span, hnext⟩ := h
    obtain ⟨front, interior, rest, hfirst, hspan⟩ := isNext_append_iff.1 hnext
    have htext : text = front ++ (Piece.region interior).raw ++ rest := by
      rw [hfirst.text_eq]
      simp [Piece.raw]
    -- The rest is looked through in the same way, and it is shorter by a region at least.
    have hlength : rest.length < text.length := by
      rw [htext]
      simp only [Piece.raw, List.length_append, List.length_cons]
      omega
    obtain ⟨spans, hspans⟩ := exists_regions (seen ++ front ++ (Piece.region interior).raw) rest
    refine ⟨span :: spans, .next hnext ?_⟩
    rw [htext, hspan]
    simpa using hspans
  · exact ⟨[], .last fun span hnext => h ⟨span, hnext⟩⟩
termination_by text.length

/-! ## §7. The blocks of a template. -/

/-- The block of a stretch of text that is not empty. -/
theorem textBlocks_eq (seen text more : List Char) :
    textBlocks (seen ++ text ++ more) ⟨byteSize seen, byteSize (seen ++ text)⟩
      = if text = [] then []
        else [⟨.text (String.ofList text), ⟨byteSize seen, byteSize (seen ++ text)⟩⟩] := by
  by_cases h : text = []
  · subst h
    simp [textBlocks]
  · have hlt : byteSize seen < byteSize (seen ++ text) := by
      have := byteSize_pos h
      rw [byteSize_append]
      omega
    rw [textBlocks, if_pos hlt, if_neg h, byteSize_append, slice_append]

/-- Plain text that has been held back is a block of its own. -/
theorem blocksFrom_plain? (seen text more : List Char) (pieces : List Piece) :
    blocksFrom (byteSize seen) (plain? text.reverse ++ pieces)
      = (blocksFrom (byteSize (seen ++ text)) pieces).map
          (textBlocks (seen ++ text ++ more) ⟨byteSize seen, byteSize (seen ++ text)⟩ ++ ·) := by
  rw [textBlocks_eq]
  by_cases h : text = []
  · subst h
    cases hread : blocksFrom (byteSize seen) pieces <;> simp [plain?, hread, Except.map]
  · rw [if_neg h]
    have hplain : plain? text.reverse = [.plain text] := by simp [plain?, h]
    rw [hplain, List.singleton_append, blocksFrom]
    simp only [Piece.block, Piece.raw, byteSize_append]
    cases blocksFrom (byteSize seen + byteSize text) pieces <;> rfl

/-- Between its braces a region has its interior. -/
theorem slice_interior (seen interior more : List Char) :
    Region.interior (seen ++ (Piece.region interior).raw ++ more)
        ⟨byteSize seen, byteSize (seen ++ (Piece.region interior).raw)⟩ = interior := by
  have hslice := slice_append (seen ++ ['{', '{']) interior ('}' :: '}' :: more)
  have hbraces : byteSize ['{', '{'] = 2 := rfl
  have hstop : byteSize (seen ++ (Piece.region interior).raw) - 2
      = byteSize seen + 2 + byteSize interior := by
    rw [byteSize_append, byteSize_region]
    omega
  rw [byteSize_append seen, hbraces] at hslice
  rw [Region.interior, hstop]
  simpa [Piece.raw] using hslice

/-- A region is read as the scanner's piece is. -/
theorem regionBlock_eq (seen interior more : List Char) :
    regionBlock (seen ++ (Piece.region interior).raw ++ more)
        ⟨byteSize seen, byteSize (seen ++ (Piece.region interior).raw)⟩
      = ((Piece.region interior).block (byteSize seen)).map
          (⟨·, ⟨byteSize seen, byteSize (seen ++ (Piece.region interior).raw)⟩⟩) := by
  have hwhole := slice_append seen (Piece.region interior).raw more
  rw [← byteSize_append] at hwhole
  have hinterior := slice_interior seen interior more
  simp only [regionBlock, readInterior, hwhole, hinterior, Piece.block, List.isEmpty_iff]
  by_cases hcode : trimBlanks interior = []
  · rw [if_pos hcode, if_pos hcode]
    rfl
  · rw [if_neg hcode, if_neg hcode]
    cases Code.parse (String.ofList (trimBlanks interior))
      (byteSize seen + 2 + byteSize (interior.takeWhile isBlank)) <;> rfl

/-- **Between its regions a template is text**: the blocks of the scanner's pieces are those of the
regions and of what stands around them. -/
theorem blocksFrom_cut {seen text : List Char} {spans : List Span}
    (h : Regions (seen ++ text) (byteSize seen) spans) :
    blocksFrom (byteSize seen) (cut text) = readRegions (seen ++ text) (byteSize seen) spans := by
  induction spans generalizing seen text with
  | nil =>
      cases h with
      | last hnone =>
          have hcut : cut text = plain? text.reverse := by
            refine cut_of_no_first fun front interior rest hfirst => ?_
            exact hnone _ (isNext_append_iff.2 ⟨front, interior, rest, hfirst, rfl⟩)
          have := blocksFrom_plain? seen text [] []
          rw [List.append_nil, List.append_nil] at this
          rw [hcut, this, readRegions]
          simp [blocksFrom, Except.map, pure, Except.pure]
  | cons span spans ih =>
      cases h with
      | next hnext hmore =>
          obtain ⟨front, interior, rest, hfirst, rfl⟩ := isNext_append_iff.1 hnext
          have htext : seen ++ text = seen ++ front ++ (Piece.region interior).raw ++ rest := by
            rw [hfirst.text_eq]
            simp [Piece.raw]
          rw [cut_of_first hfirst, htext,
            blocksFrom_plain? seen front ((Piece.region interior).raw ++ rest)]
          rw [htext] at hmore
          -- The regions behind this one are those of the text behind it.
          have hrest := ih hmore
          rw [readRegions, regionBlock_eq, ← hrest, blocksFrom, ← byteSize_append,
            ← List.append_assoc (seen ++ front)]
          -- Both sides read the region first and then the rest, and stop at the first error.
          cases (Piece.region interior).block (byteSize (seen ++ front)) with
          | error e => rfl
          | ok block =>
              cases blocksFrom (byteSize (seen ++ front ++ (Piece.region interior).raw))
                (cut rest) <;> rfl

end Region

/-- **Reading a template is reading its regions.**  Every template has its regions, and has them in
one way.  What is read are these, one after the other, and the text between them.  A region with
nothing but blanks in it is text; what any other one holds is read as code, without the blanks at
its ends. -/
theorem Template.parse_eq_readRegions (source : String) :
    ∃ spans, Region.Regions source.toList 0 spans ∧
      (∀ others, Region.Regions source.toList 0 others → others = spans) ∧
      (∀ span outcome, Region.ReadsRegion source.toList span outcome ↔
        Region.regionBlock source.toList span = outcome) ∧
      Template.parse source
        = (Region.readRegions source.toList 0 spans).map fun blocks => { source, blocks } := by
  obtain ⟨spans, hspans⟩ := Region.exists_regions [] source.toList
  refine ⟨spans, hspans, fun others hothers => hspans.unique hothers,
    fun _ _ => Region.readsRegion_iff, ?_⟩
  have hread : blocksFrom 0 (Piece.cut source.toList)
      = Region.readRegions source.toList 0 spans := Region.blocksFrom_cut hspans
  rw [Template.parse, hread]
  rfl

/-- A text, a region with blanks on both sides of its code, and one with nothing but a blank. -/
def padded : String :=
  "a\x7b\x7b \t$x  \x7d\x7d\x7b\x7b \x7d\x7d"

theorem Template.parse_eq_readRegions_padded :
    Region.ReadsRegion padded.toList ⟨1, 11⟩ (.ok ⟨.variable "x", ⟨1, 11⟩⟩) ∧
      Region.ReadsRegion padded.toList ⟨11, 16⟩
        (.ok ⟨.text "\x7b\x7b \x7d\x7d", ⟨11, 16⟩⟩) ∧
      ∃ spans, Region.Regions padded.toList 0 spans ∧
        Region.readRegions padded.toList 0 spans
          = .ok [⟨.text "a", ⟨0, 1⟩⟩, ⟨.variable "x", ⟨1, 11⟩⟩,
              ⟨.text "\x7b\x7b \x7d\x7d", ⟨11, 16⟩⟩] := by
  obtain ⟨spans, hspans, -, hreads, hparse⟩ := Template.parse_eq_readRegions padded
  refine ⟨(hreads _ _).mpr (by cbv), (hreads _ _).mpr (by cbv), spans, hspans, ?_⟩
  have hblocks : Template.parse padded
      = .ok ⟨padded, [⟨.text "a", ⟨0, 1⟩⟩, ⟨.variable "x", ⟨1, 11⟩⟩,
          ⟨.text "\x7b\x7b \x7d\x7d", ⟨11, 16⟩⟩]⟩ := by
    cbv
  rw [hparse] at hblocks
  cases hread : Region.readRegions padded.toList 0 spans with
  | error e =>
      rw [hread] at hblocks
      contradiction
  | ok blocks =>
      rw [hread] at hblocks
      exact congrArg Except.ok (Template.mk.inj (Except.ok.inj hblocks)).2

end PromptEngine
