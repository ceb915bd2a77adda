/-
  PromptEngine.Proofs.Text.Numerals — numbers as they are written in messages and reports.

  A number is written by its decimal digits and by nothing else (`isDigit_of_mem_toString`), and
  no two numbers are written alike (`toString_injective`).
-/
import Mathlib.Logic.Function.Defs

namespace PromptEngine

/-- The digits of a number tell which one it is. -/
theorem toString_injective : Function.Injective (toString : Nat → String) := by
  intro first second h
  have hread := congrArg (fun text => Nat.ofDigitChars 10 text.toList 0) h
  simpa [Nat.toList_repr] using hread

theorem isDigit_of_mem_toString {n : Nat} {c : Char} (h : c ∈ (toString n).toList) :
    c.isDigit = true := by
  have hdigit : c ∈ Nat.toDigits 10 n := by
    rw [← Nat.toList_repr]
    exact h
  exact Nat.isDigit_of_mem_toDigits (by decide) (by decide) hdigit

end PromptEngine
