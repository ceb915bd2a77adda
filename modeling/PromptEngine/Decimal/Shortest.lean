/-
  PromptEngine.Decimal.Shortest — the shortest decimal that reads back to a binary64 value.

  A finite value is m · 2^q.  The reals that round to it form an interval from halfway to the
  neighbour below to halfway to the neighbour above, with its ends exactly when m is even.
  `Binary.shortest` looks for the decimal with the fewest digits in that interval, and among those
  for the one nearest to the value; an exact tie goes to the even last digit.  All comparisons are
  exact, in natural numbers.
-/

namespace PromptEngine.Decimal

/-! ## §1. Values and decimals. -/

/-- A finite non-negative value m · 2^q. -/
structure Binary where
  m : Nat
  q : Int
  /-- The neighbour below is half as far away as the neighbour above. -/
  narrowBelow : Bool

/-- The bits of a finite value without their sign. -/
def Binary.ofBits (bits : UInt64) : Binary :=
  let exponent := ((bits >>> 52) &&& 0x7FF).toNat
  let fraction := (bits &&& 0xFFFFFFFFFFFFF).toNat
  if exponent == 0 then ⟨fraction, -1074, false⟩
  else ⟨Nat.pow 2 52 + fraction, (exponent : Int) - 1075, fraction == 0 && exponent > 1⟩

/-- The decimal digits · 10^exponent. -/
structure Digits where
  digits : Nat
  exponent : Int
  deriving DecidableEq, Repr

/-- The order of a · 10^i and n · 2^j. -/
def compareScaled (a : Nat) (i : Int) (n : Nat) (j : Int) : Ordering :=
  compare (a * Nat.pow 10 i.toNat * Nat.pow 2 (-j).toNat)
    (n * Nat.pow 2 j.toNat * Nat.pow 10 (-i).toNat)

/-- The decimal lies among the reals that round to the value. -/
def Binary.readsBack (x : Binary) (d : Digits) : Bool :=
  let low := if x.narrowBelow then 4 * x.m - 1 else 4 * x.m - 2
  let high := 4 * x.m + 2
  let closed := x.m % 2 == 0
  let belowOrder := compareScaled d.digits d.exponent low (x.q - 2)
  let aboveOrder := compareScaled d.digits d.exponent high (x.q - 2)
  (belowOrder == .gt || closed && belowOrder == .eq)
    && (aboveOrder == .lt || closed && aboveOrder == .eq)

/-! ## §2. The search. -/

/-- The least k with m · 2^q < 10^k, for a value that is not zero. -/
def Binary.scale (x : Binary) : Int :=
  let guess := Int.fdiv (((x.m.log2 : Int) + x.q) * 30103) 100000
  let above (k : Int) : Bool := compareScaled 1 k x.m x.q == .gt
  if above (guess - 1) then guess - 1
  else if above guess then guess
  else if above (guess + 1) then guess + 1
  else guess + 2

/-- The greatest multiple of 10^i that is not above the value, counted in units of 10^i. -/
def Binary.floorAt (x : Binary) (i : Int) : Nat :=
  (x.m * Nat.pow 2 x.q.toNat * Nat.pow 10 (-i).toNat)
    / (Nat.pow 10 i.toNat * Nat.pow 2 (-x.q).toNat)

/-- Of two neighbouring multiples of 10^i the nearer one, at equal distance the even one. -/
def Binary.nearer (x : Binary) (i : Int) (low : Nat) : Nat :=
  match compareScaled (2 * low + 1) i (2 * x.m) x.q with
  | .lt => low + 1
  | .gt => low
  | .eq => if low % 2 == 0 then low else low + 1

/-- The decimal on the grid of 10^i that reads back, if one does. -/
def Binary.candidate? (x : Binary) (i : Int) : Option Digits :=
  let low := x.floorAt i
  let lower : Digits := ⟨low, i⟩
  let upper : Digits := ⟨low + 1, i⟩
  match x.readsBack lower, x.readsBack upper with
  | true, true => some ⟨x.nearer i low, i⟩
  | true, false => some lower
  | false, true => some upper
  | false, false => none

/-- Move trailing zeros from the digits into the exponent. -/
def Digits.strip (d : Digits) : Digits :=
  go d.digits d.digits d.exponent
where
  go : Nat → Nat → Int → Digits
    | 0, digits, exponent => ⟨digits, exponent⟩
    | fuel + 1, digits, exponent =>
      if digits % 10 == 0 && digits != 0 then go fuel (digits / 10) (exponent + 1)
      else ⟨digits, exponent⟩

/-- The value itself as a decimal. -/
def Binary.exact (x : Binary) : Digits :=
  ⟨x.m * Nat.pow 2 x.q.toNat * Nat.pow 5 (-x.q).toNat, min x.q 0⟩

/-- The shortest decimal that reads back to the value, without trailing zeros. -/
def Binary.shortest (x : Binary) : Digits :=
  if x.m == 0 then ⟨0, 0⟩
  else
    let k := x.scale
    let found := (List.range 17).findSome? fun n => x.candidate? (k - ((n + 1 : Nat) : Int))
    (found.getD x.exact).strip

end PromptEngine.Decimal
