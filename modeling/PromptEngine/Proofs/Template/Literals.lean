/-
  PromptEngine.Proofs.Template.Literals — where a quoted literal ends.

  Two scanners look for the end of a literal.  The one that cuts a template into pieces takes a
  backslash to protect the quote and the backslash only; the one that reads the tokens of a code
  block takes it to protect any character.  `Literal.Enclosed` says what may stand between two
  quotes by the first of these rules.  Main facts:

    • `split_of_enclosed`, `enclosed_of_split` — the token reader ends a literal at the first quote
      behind an enclosed content, and nowhere else,
    • `cutFrom_enclosed`, `enclosed_of_region` — so does the scanner that cuts.
-/
import PromptEngine.Proofs.Template.Cutting

namespace PromptEngine

/-! ## §1. The content of a literal. -/

/-- What may stand between two quotes.  A backslash protects the quote and the backslash; before
any other character it stands for itself. -/
inductive Literal.Enclosed (quote : Char) : List Char → Prop
  | nil : Enclosed quote []
  | plain {c : Char} {body : List Char} (hquote : c ≠ quote) (hback : c ≠ '\\')
      (more : Enclosed quote body) : Enclosed quote (c :: body)
  | escaped {c : Char} {body : List Char} (h : c = quote ∨ c = '\\')
      (more : Enclosed quote body) : Enclosed quote ('\\' :: c :: body)
  | backslash {c : Char} {body : List Char} (hquote : c ≠ quote) (hback : c ≠ '\\')
      (more : Enclosed quote (c :: body)) : Enclosed quote ('\\' :: c :: body)

namespace Literal

/-! ## §2. The token reader. -/

/-- The quote behind an enclosed content ends the literal. -/
theorem split_of_enclosed {quote : Quote} {body : List Char} (h : Enclosed quote.char body)
    (rest : List Char) :
    split quote.char (body ++ quote.char :: rest) = some (body, rest) := by
  induction h with
  | nil => exact split_close quote rest
  | plain hquote hback _ ih =>
      rw [List.cons_append, split_plain hquote hback, ih]
      rfl
  | escaped _ _ ih =>
      rw [List.cons_append, List.cons_append, split_protected, ih]
      rfl
  | @backslash c body hquote hback _ ih =>
      -- The reader takes the backslash and the character together, the induction one by one.
      rw [List.cons_append, split_plain hquote hback] at ih
      obtain ⟨⟨content, after⟩, hsplit, heq⟩ := Option.map_eq_some_iff.1 ih
      rw [List.cons_append, List.cons_append, split_protected, hsplit]
      obtain ⟨hcontent, hafter⟩ := Prod.mk.inj heq
      rw [← List.cons_inj_right c |>.1 hcontent, ← hafter]
      rfl

/-- What the reader takes for the content of a literal is enclosed. -/
theorem enclosed_of_split {quote : Quote} {text body rest : List Char}
    (h : split quote.char text = some (body, rest)) :
    Enclosed quote.char body ∧ text = body ++ quote.char :: rest := by
  fun_induction split quote.char text generalizing body rest with
  | case1 => cases h
  | case2 c text ih =>
      obtain ⟨⟨content, after⟩, hsplit, heq⟩ := Option.map_eq_some_iff.1 h
      obtain ⟨hcontent, htext⟩ := ih hsplit
      obtain ⟨rfl, rfl⟩ := Prod.mk.inj heq
      refine ⟨?_, by rw [htext]; rfl⟩
      by_cases hc : c = quote.char ∨ c = '\\'
      · exact .escaped hc hcontent
      · have hquote : c ≠ quote.char := fun e => hc (.inl e)
        have hback : c ≠ '\\' := fun e => hc (.inr e)
        exact .backslash hquote hback (.plain hquote hback hcontent)
  | case3 c text _ hc =>
      obtain ⟨rfl, rfl⟩ := Prod.mk.inj (Option.some.inj h)
      rw [beq_iff_eq] at hc
      exact ⟨.nil, by rw [hc]; rfl⟩
  | case4 => cases h
  | case5 c text _ hquote hback ih =>
      obtain ⟨⟨content, after⟩, hsplit, heq⟩ := Option.map_eq_some_iff.1 h
      obtain ⟨hcontent, htext⟩ := ih hsplit
      obtain ⟨rfl, rfl⟩ := Prod.mk.inj heq
      rw [beq_iff_eq] at hquote hback
      exact ⟨.plain hquote hback hcontent, by rw [htext]; rfl⟩

end Literal

/-! ## §3. The scanner. -/

namespace Piece

open Literal

/-- **The scanner stays in a literal over an enclosed content** and leaves it at the quote. -/
theorem cutFrom_enclosed {quote : Quote} {body : List Char} (h : Enclosed quote.char body)
    (before : List Char) {rest : List Char} (hrest : rest ≠ []) (interior : List Char) :
    cutFrom (.literal quote.char) before interior (body ++ quote.char :: rest)
      = cutFrom .inside before (quote.char :: (body.reverse ++ interior)) rest := by
  induction h generalizing interior with
  | nil => exact cutFrom_unquote before interior quote hrest
  | plain hquote hback _ ih =>
      rw [List.cons_append, cutFrom_literal before interior hback hquote (by simp), ih]
      simp
  | escaped hc _ ih =>
      rw [List.cons_append, List.cons_append, cutFrom_protected before interior _ hc.symm, ih]
      simp
  | backslash hquote hback _ ih =>
      rw [List.cons_append, List.cons_append,
        cutFrom_backslash before interior quote _ hquote hback, ← List.cons_append, ih]
      simp

/-- A scanner that cuts off a region behind an open literal has found the end of the literal. -/
theorem enclosed_of_region {quote : Quote} {before found : List Char} :
    ∀ (text interior : List Char),
      Piece.region found ∈ cutFrom (.literal quote.char) before interior text →
      ∃ body rest, text = body ++ quote.char :: rest ∧ Enclosed quote.char body ∧
        Piece.region found ∈ cutFrom .inside before (quote.char :: (body.reverse ++ interior)) rest
  | [], _, h => absurd h not_region_mem_plain?
  | [_], _, h => absurd h not_region_mem_plain?
  | c :: d :: text, interior, h => by
      by_cases hback : c = '\\'
      · subst hback
        by_cases hd : d = '\\' ∨ d = quote.char
        · rw [cutFrom_protected before interior text hd] at h
          obtain ⟨body, rest, rfl, hbody, hregion⟩ := enclosed_of_region text _ h
          refine ⟨'\\' :: d :: body, rest, rfl, .escaped hd.symm hbody, ?_⟩
          simpa using hregion
        · have hquote : d ≠ quote.char := fun e => hd (.inr e)
          have hback : d ≠ '\\' := fun e => hd (.inl e)
          rw [cutFrom_backslash before interior quote text hquote hback] at h
          obtain ⟨body, rest, htext, hbody, hregion⟩ := enclosed_of_region (d :: text) _ h
          -- The content goes on with `d`, since `d` is not the quote.
          cases body with
          | nil => exact absurd (List.cons.inj htext).1 hquote
          | cons e body =>
              obtain ⟨rfl, rfl⟩ := List.cons.inj htext
              refine ⟨'\\' :: d :: body, rest, rfl, .backslash hquote hback hbody, ?_⟩
              simpa using hregion
      · by_cases hquote : c = quote.char
        · subst hquote
          rw [cutFrom_unquote before interior quote (by simp)] at h
          exact ⟨[], d :: text, rfl, .nil, h⟩
        · rw [cutFrom_literal before interior hback hquote (by simp)] at h
          obtain ⟨body, rest, htext, hbody, hregion⟩ := enclosed_of_region (d :: text) _ h
          refine ⟨c :: body, rest, by rw [htext]; rfl, .plain hquote hback hbody, ?_⟩
          simpa using hregion

end Piece

end PromptEngine
