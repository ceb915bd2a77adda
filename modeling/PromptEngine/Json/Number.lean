/-
  PromptEngine.Json.Number — the numbers of JSON: integers of 64 bits, or binary64 reals.

  A literal without fraction and exponent that fits a 64-bit integer, signed or unsigned, is an
  integer; every other literal is a real.  A real is read by scaling its leading digits with one
  or more powers of ten, and written with the fewest digits that read back.
-/
import PromptEngine.Decimal.Shortest

namespace PromptEngine.Json

/-- A JSON number.  Integers lie between -2^63 and 2^64. -/
inductive Number where
  | integer (value : Int)
  | real (value : Float)

namespace Number

instance : Inhabited Number := ⟨.integer 0⟩

/-- Integers are equal to integers only, reals to reals only. -/
def beq : Number → Number → Bool
  | .integer a, .integer b => a == b
  | .real a, .real b => a == b
  | _, _ => false

instance : BEq Number := ⟨beq⟩

/-- The number as a real. -/
def toFloat : Number → Float
  | .integer value => Float.ofInt value
  | .real value => value

/-! ## §1. Literals. -/

/-- The parts of a number literal. -/
structure Literal where
  negative : Bool
  whole : List Char
  fraction : Option (List Char)
  /-- The sign and the digits of the exponent. -/
  exponent : Option (Bool × List Char)

/-- The value of a decimal digit. -/
def digitValue (c : Char) : Nat :=
  c.toNat - '0'.toNat

/-- The value of a row of decimal digits. -/
def decimalValue (digits : List Char) : Nat :=
  digits.foldl (fun n c => 10 * n + digitValue c) 0

/-- The leading digits of a literal that fit an unsigned 64-bit integer, as a number, and how many
digits were left over behind them. -/
def significand : Nat → List Char → Nat × Nat
  | n, [] => (n, 0)
  | n, c :: rest =>
    let next := 10 * n + digitValue c
    if next < Nat.pow 2 64 then significand next rest else (n, rest.length + 1)

/-- The integer that a literal stands for, unless it is minus zero or needs more than 64 bits. -/
def Literal.integer? (literal : Literal) : Option Int :=
  let n := decimalValue literal.whole
  if literal.negative then
    if 0 < n && n ≤ Nat.pow 2 63 then some (-(n : Int)) else none
  else if n < Nat.pow 2 64 then some n
  else none

/-- A power of ten as a real. -/
def powerOfTen (n : Nat) : Float :=
  Float.ofScientific 1 false n

/-- `x` scaled by 10^exponent, or nothing if that is too large for a real.  Exponents beyond the
range of the reals are taken in steps of 308. -/
def scaled? (x : Float) (exponent : Int) : Option Float :=
  go (exponent.natAbs / 308 + 1) x exponent
where
  go : Nat → Float → Int → Option Float
    | 0, x, _ => some x
    | steps + 1, x, exponent =>
      if exponent.natAbs ≤ 308 then
        if exponent < 0 then some (x / powerOfTen exponent.natAbs)
        else
          let y := x * powerOfTen exponent.natAbs
          if y.isInf then none else some y
      else if x == 0 then some x
      else if 0 ≤ exponent then none
      else go steps (x / powerOfTen 308) (exponent + 308)

/-- The exponent of a literal as a number. -/
def Literal.exponentValue (literal : Literal) : Int :=
  match literal.exponent with
  | none => 0
  | some (true, digits) => -(decimalValue digits : Int)
  | some (false, digits) => decimalValue digits

/-- The significant digits of a literal as a number, and the power of ten that they are scaled by.
Digits that do not fit 64 bits count as zeros before the point, and not at all behind it. -/
def Literal.parts (literal : Literal) : Nat × Int :=
  let (leading, dropped) := significand 0 literal.whole
  let fraction := literal.fraction.getD []
  let (n, unused) := significand leading fraction
  (n, (dropped : Int) - ((fraction.length - unused : Nat) : Int) + literal.exponentValue)

/-- The real that a literal stands for, unless it is too large. -/
def Literal.real? (literal : Literal) : Option Float :=
  let (n, exponent) := literal.parts
  let magnitude :=
    if (decimalValue ((literal.exponent.map (·.2)).getD [])) < Nat.pow 2 31 then
      scaled? n.toUInt64.toFloat exponent
    else if n != 0 && 0 < literal.exponentValue then none
    else some 0
  magnitude.map fun x => if literal.negative then -x else x

/-- The number that a literal stands for, unless it is too large. -/
def Literal.number? (literal : Literal) : Option Number :=
  match literal.fraction, literal.exponent, literal.integer? with
  | none, none, some n => some (.integer n)
  | _, _, _ => literal.real?.map .real

/-! ## §2. Written form. -/

/-- Insert a point after the first `n` digits. -/
def withPoint (digits : List Char) (n : Nat) : String :=
  String.ofList (digits.take n ++ '.' :: digits.drop n)

/-- Digits are written positionally if the exponent of the leading one is at least -5 and below 16,
with a zero behind the point of a whole number; otherwise with an exponent that has its sign. -/
def layout (d : Decimal.Digits) : String :=
  let digits := (toString d.digits).toList
  let leading := (digits.length : Int) + d.exponent - 1
  if leading < -5 || 16 ≤ leading then
    let mantissa :=
      if digits.length == 1 then String.ofList digits else withPoint digits 1
    mantissa ++ (if leading < 0 then "e-" else "e+") ++ toString leading.natAbs
  else if leading < 0 then
    "0." ++ String.ofList (List.replicate (leading.natAbs - 1) '0' ++ digits)
  else if 0 ≤ d.exponent then
    String.ofList (digits ++ List.replicate d.exponent.toNat '0') ++ ".0"
  else withPoint digits (leading.toNat + 1)

/-- A finite real is written with the fewest digits that read back. -/
def realText (x : Float) : String :=
  let sign := if x.toBits >>> 63 == 1 then "-" else ""
  sign ++ layout (Decimal.Binary.ofBits x.toBits).shortest

/-- The written form of a number. -/
def toText : Number → String
  | .integer value => toString value
  | .real value => realText value

end Number

end PromptEngine.Json
