/-
  PromptEngine.Toml.Scalar — values written without quotes or brackets.

      integer ::= [sign] digits | "0x" digits | "0o" digits | "0b" digits
      real    ::= [sign] digits ["." digits] [("e" | "E") [sign] digits] | [sign] ("inf" | "nan")
      moment  ::= date [("T" | "t" | " ") time [offset]] | time

  Single underscores may stand between digits.  A decimal integer, and the whole part of a real,
  begin with zero only if they are zero.  Integers have 64 bits with sign.  A positive real that
  is too large for binary64 is refused.
-/
import PromptEngine.Decimal.Real
import PromptEngine.Toml.Value

namespace PromptEngine.Toml

/-! ## §1. Digits. -/

/-- The value of a digit in a base up to 16. -/
def digitValue? (base : Nat) (c : Char) : Option Nat :=
  let n :=
    if c.isDigit then some (c.toNat - '0'.toNat)
    else if 'a' ≤ c && c ≤ 'f' then some (c.toNat - 'a'.toNat + 10)
    else if 'A' ≤ c && c ≤ 'F' then some (c.toNat - 'A'.toNat + 10)
    else none
  n.filter (· < base)

/-- The values of digits with single underscores between them; there has to be a digit. -/
def digits? (base : Nat) : List Char → Option (List Nat)
  | [] => none
  | [c] => (digitValue? base c).map ([·])
  | c :: '_' :: rest => do return (← digitValue? base c) :: (← digits? base rest)
  | c :: rest => do return (← digitValue? base c) :: (← digits? base rest)

/-- The number that digits stand for. -/
def ofDigits (base : Nat) (digits : List Nat) : Nat :=
  digits.foldl (base * · + ·) 0

/-- Decimal digits that begin with zero only if they are zero. -/
def wholeDigits? (text : List Char) : Option (List Nat) :=
  (digits? 10 text).filter fun digits => digits.head? != some 0 || digits.length == 1

/-! ## §2. Numbers. -/

/-- The integers of 64 bits with sign. -/
def inRange (n : Int) : Bool :=
  -(Nat.pow 2 63 : Int) ≤ n && n < (Nat.pow 2 63 : Int)

/-- An integer. -/
def integer? (text : List Char) : Option Int :=
  let n : Option Int := match text with
    | '0' :: 'x' :: digits => (digits? 16 digits).map fun ds => (ofDigits 16 ds : Int)
    | '0' :: 'o' :: digits => (digits? 8 digits).map fun ds => (ofDigits 8 ds : Int)
    | '0' :: 'b' :: digits => (digits? 2 digits).map fun ds => (ofDigits 2 ds : Int)
    | _ =>
      let (negative, digits) := Decimal.splitSign text
      (wholeDigits? digits).map fun ds =>
        if negative then -(ofDigits 10 ds : Int) else ofDigits 10 ds
  n.filter inRange

/-- Split a text at the first character with a property; that character is dropped, and it is
told whether there is one. -/
def splitAtFirst (p : Char → Bool) (text : List Char) : List Char × Option (List Char) :=
  (text.takeWhile (!p ·), (text.dropWhile (!p ·)).tail?)

/-- A decimal with a fraction or an exponent, without its sign. -/
def decimal? (text : List Char) : Option Float := do
  let (front, exponent) := splitAtFirst (fun c => c == 'e' || c == 'E') text
  let (whole, fraction) := splitAtFirst (· == '.') front
  if exponent.isNone && fraction.isNone then none
  else
    let whole ← wholeDigits? whole
    let fraction ← (fraction.map (digits? 10)).getD (some [])
    let exponent : Int ← match exponent with
      | none => some 0
      | some exponent =>
        let (negative, digits) := Decimal.splitSign exponent
        (digits? 10 digits).map fun ds =>
          if negative then -(ofDigits 10 ds : Int) else ofDigits 10 ds
    return Decimal.nearest (ofDigits 10 (whole ++ fraction)) (exponent - fraction.length)

/-- A real. -/
def real? (text : List Char) : Option Float :=
  let (negative, magnitude) := Decimal.splitSign text
  let signed := fun (x : Float) => if negative then -x else x
  if magnitude == ['i', 'n', 'f'] then some (signed (Decimal.nearest 1 400))
  else if magnitude == ['n', 'a', 'n'] then some (signed (0 / 0))
  else (decimal? magnitude).bind fun x =>
    if x.isInf && !negative then none else some (signed x)

/-! ## §3. Dates and times. -/

/-- A number of exactly `count` decimal digits, and what follows it. -/
def fixed? (count : Nat) (text : List Char) : Option (Nat × List Char) :=
  let digits := text.take count
  if digits.length == count && digits.all Char.isDigit then
    some (Decimal.natOfDigits digits, text.drop count)
  else none

/-- A character that has to stand at the front of a text. -/
def mark? (c : Char) : List Char → Option (List Char)
  | d :: rest => if c == d then some rest else none
  | [] => none

/-- Whether a year has a 29 February. -/
def isLeapYear (year : Nat) : Bool :=
  year % 4 == 0 && (year % 100 != 0 || year % 400 == 0)

/-- The number of days of a month. -/
def daysInMonth (year month : Nat) : Nat :=
  if month == 2 then (if isLeapYear year then 29 else 28)
  else if [4, 6, 9, 11].contains month then 30
  else 31

/-- Pass over a date: year, month and day. -/
def date? (text : List Char) : Option (List Char) := do
  let (year, rest) ← fixed? 4 text
  let (month, rest) ← fixed? 2 (← mark? '-' rest)
  let (day, rest) ← fixed? 2 (← mark? '-' rest)
  if 1 ≤ month && month ≤ 12 && 1 ≤ day && day ≤ daysInMonth year month then some rest else none

/-- Pass over an hour and a minute. -/
def hourMinute? (text : List Char) : Option (List Char) := do
  let (hour, rest) ← fixed? 2 text
  let (minute, rest) ← fixed? 2 (← mark? ':' rest)
  if hour < 24 && minute < 60 then some rest else none

/-- Pass over a time; the second may be a leap second, and it may have a fraction. -/
def time? (text : List Char) : Option (List Char) := do
  let rest ← hourMinute? text
  let (second, rest) ← fixed? 2 (← mark? ':' rest)
  if second ≤ 60 then
    match rest with
    | '.' :: rest =>
      if (rest.head?.map Char.isDigit).getD false then some (rest.dropWhile Char.isDigit) else none
    | rest => some rest
  else none

/-- Pass over the offset of a time zone, if there is one. -/
def offset? : List Char → Option (List Char)
  | 'Z' :: rest => some rest
  | 'z' :: rest => some rest
  | '+' :: rest => hourMinute? rest
  | '-' :: rest => hourMinute? rest
  | rest => some rest

/-- Whether a text is a date, a time, or both. -/
def isMoment (text : List Char) : Bool :=
  match date? text with
  | some [] => true
  | some (separator :: rest) =>
    ['T', 't', ' '].contains separator && (time? rest).bind offset? == some []
  | none => time? text == some []

/-! ## §4. Scalars. -/

/-- The value of a text without quotes or brackets. -/
def scalar? (text : List Char) : Option Value :=
  if text == ['t', 'r', 'u', 'e'] then some (.bool true)
  else if text == ['f', 'a', 'l', 's', 'e'] then some (.bool false)
  else if isMoment text then some (.moment (String.ofList text))
  else ((integer? text).map .integer).or ((real? text).map .real)

/-- The characters of scalars. -/
def isScalarChar (c : Char) : Bool :=
  c.isAlphanum || ['+', '-', '_', '.', ':'].contains c

/-- The scalar at the front of a text, and what follows it.  A space between a date and a digit
belongs to the scalar. -/
def takeScalar (text : List Char) : List Char × List Char :=
  let front := text.takeWhile isScalarChar
  let rest := text.dropWhile isScalarChar
  match date? front, rest with
  | some [], ' ' :: d :: _ =>
    if d.isDigit then (front ++ ' ' :: rest.tail.takeWhile isScalarChar, rest.tail.dropWhile isScalarChar)
    else (front, rest)
  | _, _ => (front, rest)

end PromptEngine.Toml
