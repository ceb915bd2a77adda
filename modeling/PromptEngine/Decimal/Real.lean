/-
  PromptEngine.Decimal.Real — reals as they are written by hand.

      real     ::= [sign] (digits ["." [digits]] | "." digits) [("e" | "E") [sign] digits]
                 | [sign] ("inf" | "infinity" | "nan")

  The words may be in any case.  A decimal stands for the nearest binary64 value; one that is too
  large stands for infinity.
-/

namespace PromptEngine.Decimal

/-- Split a sign from the front of a text; true stands for minus. -/
def splitSign : List Char → Bool × List Char
  | '-' :: rest => (true, rest)
  | '+' :: rest => (false, rest)
  | text => (false, text)

/-- The value of a row of decimal digits. -/
def natOfDigits (digits : List Char) : Nat :=
  digits.foldl (fun n c => 10 * n + (c.toNat - '0'.toNat)) 0

/-- The exponent that a text ends with; no text stands for zero. -/
def exponent? : List Char → Option Int
  | [] => some 0
  | e :: rest =>
    if e == 'e' || e == 'E' then
      let (negative, digits) := splitSign rest
      if digits.isEmpty || !digits.all Char.isDigit then none
      else some (if negative then -(natOfDigits digits : Int) else natOfDigits digits)
    else none

/-- A quotient rounded to a natural number; a half goes to the even neighbour. -/
def roundQuotient (n d : Nat) : Nat :=
  let low := n / d
  match compare (2 * (n % d)) d with
  | .lt => low
  | .gt => low + 1
  | .eq => low + low % 2

/-- The binary64 value nearest to n / d, for naturals that are not zero.  The quotient is rounded
once, to 53 bits or to the spacing of the smallest values. -/
def nearestQuotient (n d : Nat) : Float :=
  let guess := (n.log2 : Int) - (d.log2 : Int) - 53
  let fits := n * Nat.pow 2 (-guess).toNat < d * Nat.pow 2 guess.toNat * Nat.pow 2 53
  let exponent := max (-1074) (if fits then guess else guess + 1)
  let m := roundQuotient (n * Nat.pow 2 (-exponent).toNat) (d * Nat.pow 2 exponent.toNat)
  (Float.ofNat m).scaleB exponent

/-- The value nearest to n · 10^exponent.  Decimals far out of the range of binary64 are settled
without computing the power. -/
def nearest (n : Nat) (exponent : Int) : Float :=
  let leading := ((Nat.toDigits 10 n).length : Int) + exponent
  if n == 0 || leading < -400 then 0
  else if 400 < leading then Float.ofScientific 1 false 400
  else nearestQuotient (n * Nat.pow 10 exponent.toNat) (Nat.pow 10 (-exponent).toNat)

/-- A decimal without sign. -/
def magnitude? (text : List Char) : Option Float :=
  let whole := text.takeWhile Char.isDigit
  let (fraction, rest) := match text.dropWhile Char.isDigit with
    | '.' :: rest => (rest.takeWhile Char.isDigit, rest.dropWhile Char.isDigit)
    | rest => ([], rest)
  if whole.isEmpty && fraction.isEmpty then none
  else (exponent? rest).map fun e => nearest (natOfDigits (whole ++ fraction)) (e - fraction.length)

/-- The words for values that are no decimals. -/
def word? (text : List Char) : Option Float :=
  match String.ofList (text.map Char.toLower) with
  | "inf" | "infinity" => some (Float.ofScientific 1 false 400)
  | "nan" => some (0 / 0)
  | _ => none

/-- Read a real. -/
def real? (text : List Char) : Option Float :=
  let (negative, rest) := splitSign text
  ((word? rest).or (magnitude? rest)).map fun x => if negative then -x else x

end PromptEngine.Decimal
