/-
  PromptEngine.Template.Piece — cutting a template into plain text and code regions.

  `Piece.cut` is one pass over the characters.  A region is opened by two braces and closed by the
  next two closing braces outside a quoted literal; another pair of opening braces outside a
  literal starts the region anew, and what was held back before it is plain text.  A region or a
  literal that is never closed is plain text as well.  Main facts: the pieces put together are the
  template (`flatMap_raw_cut`), and plain pieces are not empty (`plain_ne_nil_of_mem_cut`).
-/
import PromptEngine.Text.Span

namespace PromptEngine

/-- A part of a template: plain text, or what stands between the braces of a code region. -/
inductive Piece where
  | plain (text : List Char)
  | region (interior : List Char)
  deriving DecidableEq, Repr

namespace Piece

/-- The characters of the template that a piece was cut from. -/
def raw : Piece → List Char
  | .plain text => text
  | .region interior => '{' :: '{' :: interior ++ ['}', '}']

/-! ## §1. The cut. -/

/-- Where the scan stands: outside every region, inside one, or inside a literal of one. -/
inductive Mode where
  | outside
  | inside
  | literal (quote : Char)
  deriving DecidableEq, Repr

/-- What the scan holds back, last character first: the text since the last region, and inside a
region also its braces and its interior so far. -/
def held (mode : Mode) (before interior : List Char) : List Char :=
  match mode with
  | .outside => before
  | _ => interior ++ '{' :: '{' :: before

/-- A plain piece from its reversed characters, unless there are none. -/
def plain? (reversed : List Char) : List Piece :=
  if reversed.isEmpty then [] else [.plain reversed.reverse]

/-- The characters that open a literal. -/
def isQuote (c : Char) : Bool :=
  c == '\'' || c == '"'

/-- Cut the rest of a template.  `before` is the text since the last region and `interior` the
content of the region that is open, both with the last character first. -/
def cutFrom : Mode → (before interior : List Char) → List Char → List Piece
  | mode, before, interior, [] => plain? (held mode before interior)
  | mode, before, interior, [c] => plain? (c :: held mode before interior)
  | .literal quote, before, interior, c :: d :: rest =>
    if c == '\\' && (d == quote || d == '\\') then
      cutFrom (.literal quote) before (d :: c :: interior) rest
    else if c == quote then cutFrom .inside before (c :: interior) (d :: rest)
    else cutFrom (.literal quote) before (c :: interior) (d :: rest)
  | mode, before, interior, c :: d :: rest =>
    if c == '{' && d == '{' then
      if rest.head? == some '{' then
        cutFrom .outside (c :: held mode before interior) [] (d :: rest)
      else cutFrom .inside (held mode before interior) [] rest
    else
      match mode with
      | .outside => cutFrom .outside (c :: before) [] (d :: rest)
      | _ =>
        if c == '}' && d == '}' then
          plain? before ++ .region interior.reverse :: cutFrom .outside [] [] rest
        else if isQuote c then cutFrom (.literal c) before (c :: interior) (d :: rest)
        else cutFrom .inside before (c :: interior) (d :: rest)

/-- Cut a template into its pieces. -/
def cut (source : List Char) : List Piece :=
  cutFrom .outside [] [] source

/-! ## §2. Nothing is lost. -/

@[simp] theorem flatMap_raw_plain? (reversed : List Char) :
    (plain? reversed).flatMap raw = reversed.reverse := by
  cases reversed <;> simp [plain?, raw]

theorem flatMap_raw_cutFrom (mode : Mode) (before interior rest : List Char) :
    (cutFrom mode before interior rest).flatMap raw
      = (held mode before interior).reverse ++ rest := by
  fun_induction cutFrom mode before interior rest <;>
    simp_all [held, raw]

/-- The pieces of a template, put together, are the template. -/
theorem flatMap_raw_cut (source : List Char) : (cut source).flatMap raw = source := by
  simp [cut, flatMap_raw_cutFrom, held]

theorem plain_ne_nil_of_mem_plain? {reversed text : List Char}
    (h : Piece.plain text ∈ plain? reversed) : text ≠ [] := by
  cases reversed <;> simp_all [plain?]

theorem not_region_mem_plain? {reversed interior : List Char} :
    Piece.region interior ∉ plain? reversed := by
  cases reversed <;> simp [plain?]

theorem plain_ne_nil_of_mem_cutFrom {mode : Mode} {before interior rest text : List Char}
    (h : Piece.plain text ∈ cutFrom mode before interior rest) : text ≠ [] := by
  fun_induction cutFrom mode before interior rest
  case case1 => exact plain_ne_nil_of_mem_plain? h
  case case2 => exact plain_ne_nil_of_mem_plain? h
  case case9 ih =>
    simp only [List.mem_append, List.mem_cons, reduceCtorEq, false_or] at h
    rcases h with h | h
    · exact plain_ne_nil_of_mem_plain? h
    · exact ih h
  all_goals
    rename_i ih
    exact ih h

/-- A plain piece of a cut is never empty. -/
theorem plain_ne_nil_of_mem_cut {source text : List Char} (h : Piece.plain text ∈ cut source) :
    text ≠ [] :=
  plain_ne_nil_of_mem_cutFrom h

end Piece

end PromptEngine
