/-
  PromptEngine.Builtin.Math — the collection `math`: arithmetic on two numbers.

  Arguments may be numbers or texts that are read as reals.  A result without a fraction that fits
  a signed 64-bit integer is an integer, and one that is not finite is null.
-/
import PromptEngine.Decimal.Real
import PromptEngine.Engine.Registry
import PromptEngine.Text.WhiteSpace

namespace PromptEngine.Builtin

variable {σ : Type}

/-- The number that an argument holds. -/
def number (arguments : Arguments) (name : String) : Except EngineError Float :=
  match arguments.get? name with
  | some (.number n) => .ok n.toFloat
  | some (.string s) =>
    match Decimal.real? (trim s.toList) with
    | some x => .ok x
    | none => .error (.failed s!"argument '{name}' is not a number: '{s}'")
  | some other => .error (.failed s!"argument '{name}' is not a number: {other.compact}")
  | none => .error (.failed s!"argument '{name}' is missing")

/-- The real 2^63. -/
def integerBound : Float :=
  Float.ofNat (Nat.pow 2 63)

/-- A real as a value. -/
def numberValue (x : Float) : Json :=
  if x.abs < integerBound && x.floor == x then .ofInt x.toInt64.toInt
  else if x.isFinite then .number (.real x)
  else .null

/-- A function of the numbers `x` and `y`. -/
def arithmetic (name description : String) (operation : Float → Float → Float) : Function σ :=
  .ofPure
    { name, description := some description
      parameters :=
        [{ name := "x", required := true, typeName := some "number" },
         { name := "y", required := true, typeName := some "number" }] }
    fun arguments => do
      let x ← number arguments "x"
      let y ← number arguments "y"
      return numberValue (operation x y)

/-- The functions of the collection. -/
def mathFunctions : List (Function σ) :=
  [arithmetic "add" "Add y to x" (· + ·),
   arithmetic "subtract" "Subtract y from x" (· - ·),
   arithmetic "multiply" "Multiply x by y" (· * ·)]

end PromptEngine.Builtin
