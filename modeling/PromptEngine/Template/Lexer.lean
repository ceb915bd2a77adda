/-
  PromptEngine.Template.Lexer — from the text of a code block to its tokens.

  `Token.read` takes the longest token at the front of a text; `lexFrom` reads a whole block that
  way, skipping blanks and asking that two tokens touch only if one of them is punctuation.  It
  stops at the first fault from the left.  Main fact: a token read leaves a shorter rest
  (`Token.read_shorter`), which is what lets the reading of a block end.
-/
import PromptEngine.Template.SyntaxError

namespace PromptEngine

/-- The characters that separate the tokens of a code block. -/
def isBlank (c : Char) : Bool :=
  c == ' ' || c == '\t' || c == '\n' || c == '\r'

/-! ## §1. One token. -/

/-- What stands at the front of a text: a token, how many bytes it takes and what follows it, or
a fault and how many bytes it covers. -/
inductive Token.Front where
  | token (token : Token) (width : Nat) (rest : List Char)
  | fault (fault : SyntaxFault) (width : Nat)

/-- Read a literal that was opened by `quote`. -/
def Token.readLiteral (quote : Quote) (text : List Char) : Token.Front :=
  match Literal.split quote.char text with
  | some (body, rest) =>
    .token (.literal quote (String.ofList (Literal.unescape body))) (byteSize body + 2) rest
  | none => .fault .unterminatedLiteral (1 + Literal.openReach text)

/-- Read the longest token at the front of a text that begins with `c` and goes on with `text`. -/
def Token.read (c : Char) (text : List Char) : Token.Front :=
  if c == '.' then .token .dot 1 text
  else if c == '=' then .token .equals 1 text
  else if c == '$' then
    let name := text.takeWhile isNameChar
    .token (.variable (String.ofList name)) (1 + byteSize name) (text.dropWhile isNameChar)
  else if c == '\'' then readLiteral .single text
  else if c == '"' then readLiteral .double text
  else if isNameChar c then
    let word := c :: text.takeWhile isNameChar
    .token (.word (String.ofList word)) (byteSize word) (text.dropWhile isNameChar)
  else .fault (.strayCharacter c) c.utf8Size

theorem Literal.split_shorter {quote : Char} {text body rest : List Char}
    (h : Literal.split quote text = some (body, rest)) : rest.length < text.length := by
  fun_induction Literal.split quote text generalizing body rest with
  | case1 => simp at h
  | case2 c after ih =>
    obtain ⟨⟨b, r⟩, hr, heq⟩ := Option.map_eq_some_iff.1 h
    have := ih hr
    simp only [Prod.mk.injEq] at heq
    simp only [List.length_cons]
    rw [← heq.2]
    omega
  | case3 c after _ =>
    simp only [Option.some.injEq, Prod.mk.injEq] at h
    rw [← h.2]
    simp
  | case4 => simp at h
  | case5 c after _ _ _ ih =>
    obtain ⟨⟨b, r⟩, hr, heq⟩ := Option.map_eq_some_iff.1 h
    have := ih hr
    simp only [Prod.mk.injEq] at heq
    rw [← heq.2, List.length_cons]
    omega

theorem length_dropWhile_le {α : Type} (p : α → Bool) (xs : List α) :
    (xs.dropWhile p).length ≤ xs.length :=
  (List.dropWhile_sublist p).length_le

/-- What follows a token is not longer than what followed its first character. -/
theorem Token.read_shorter {c : Char} {text rest : List Char} {token : Token} {width : Nat}
    (h : Token.read c text = .token token width rest) : rest.length ≤ text.length := by
  have literal : ∀ {q : Quote}, readLiteral q text = .token token width rest →
      rest.length ≤ text.length := by
    intro q hq
    unfold readLiteral at hq
    split at hq
    · next hs =>
      cases hq
      exact Nat.le_of_lt (Literal.split_shorter hs)
    · cases hq
  unfold Token.read at h
  repeat' split at h
  all_goals first
    | exact literal h
    | cases h <;> first | exact Nat.le_refl _ | exact length_dropWhile_le _ _

/-! ## §2. A whole block. -/

/-- The bytes of two tokens that touch although neither of them is punctuation. -/
def touching (last : Option (Spanned Token)) (next : Spanned Token) : Option Span :=
  match last with
  | none => none
  | some last =>
    if last.span.stop == next.span.start
        && !(last.node.isPunctuation || next.node.isPunctuation) then
      some (last.span.through next.span)
    else none

/-- Read the tokens of a text that begins at byte `pos` and follows the token `last`. -/
def lexFrom (pos : Nat) (last : Option (Spanned Token)) :
    List Char → Except SyntaxError (List (Spanned Token))
  | [] => .ok []
  | c :: text =>
    if isBlank c then lexFrom (pos + 1) last text
    else
      match _h : Token.read c text with
      | .fault fault width => .error { span := ⟨pos, pos + width⟩, fault }
      | .token token width rest =>
        let next : Spanned Token := ⟨token, ⟨pos, pos + width⟩⟩
        match touching last next with
        | some span => .error { span, fault := .unseparated }
        | none => (lexFrom (pos + width) (some next) rest).map (next :: ·)
termination_by text => text.length
decreasing_by
  · simp
  · exact Nat.lt_succ_of_le (Token.read_shorter _h)

/-- Read the tokens of a code block that begins at byte `offset`. -/
def lex (code : List Char) (offset : Nat := 0) : Except SyntaxError (List (Spanned Token)) :=
  lexFrom offset none code

end PromptEngine
