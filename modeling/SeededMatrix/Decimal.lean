/-!
# Doubles in decimal notation

A finite double is a whole significand times a power of two: it is taken apart into the two, and an
exact ratio of natural numbers goes back to the nearest double.

There are two written forms of a double, neither of which ever has an exponent: the fewest digits
that read back as the same double, and a fixed number of places after the point. What is read is an
optional sign, then `inf`, `infinity` or `nan` in any case, or digits with an optional point (at
least one digit on one side of it) and an optional exponent; it reads as the nearest double.
-/

namespace SeededMatrix

/-! ## Doubles as exact numbers -/

namespace Binary64

/-- Bits of the magnitude of an infinite double. -/
def infinityBits : Nat := 0x7ff0000000000000

/-- Whether the sign bit is set; a zero and a not-a-number have one as well. -/
def isNegative (value : Float) : Bool :=
  value.toBits >>> 63 == 1

/-- The bits of a double without its sign. -/
def magnitudeBits (value : Float) : Nat :=
  value.toBits.toNat % 0x8000_0000_0000_0000

/-- The leading bit of a significand in the normal range, `2 ^ 52`. In the bits of a double it is
the unit of the exponent field. -/
def leadingUnit : Nat := 0x10_0000_0000_0000

/-- The magnitude `significand * 2 ^ exponent` of a finite double. -/
structure Magnitude where
  significand : Nat
  exponent : Int
  /-- The double below is half as far away as the double above. -/
  narrowBelow : Bool
deriving Repr

/-- Magnitude of a finite double: below the normal range the exponent stays and the leading bit is
absent. -/
def magnitude (value : Float) : Magnitude :=
  let field : Nat := magnitudeBits value / leadingUnit
  let fraction : Nat := magnitudeBits value % leadingUnit
  if field = 0 then ⟨fraction, -1074, false⟩
  else ⟨leadingUnit + fraction, (field : Int) - 1075, fraction == 0 && 1 < field⟩

/-- Position of the leading bit of `numerator / denominator`, both positive. -/
def leadingBit (numerator denominator : Nat) : Int :=
  let estimate : Int := (numerator.log2 : Int) - denominator.log2
  if denominator <<< estimate.toNat ≤ numerator <<< (-estimate).toNat then estimate
  else estimate - 1

/-- Quotient rounded to the nearest whole number, a tie to the even one. -/
def divideToEven (numerator denominator : Nat) : Nat :=
  let quotient := numerator / denominator
  let twice := 2 * (numerator % denominator)
  if twice < denominator then quotient
  else if denominator < twice then quotient + 1
  else quotient + quotient % 2

/-- The double nearest to `numerator / denominator`, a tie to the even significand; past the largest
double it is infinite. Adding the rounded significand to the exponent field lets a carry out of the
significand raise the exponent. -/
def ofRatio (numerator denominator : Nat) : Float :=
  if numerator = 0 then 0.0
  else
    let exponent := max (leadingBit numerator denominator - 52) (-1074)
    let significand :=
      divideToEven (numerator <<< (-exponent).toNat) (denominator <<< exponent.toNat)
    let bits := (exponent + 1074).toNat * leadingUnit + significand
    Float.ofBits (min bits infinityBits).toUInt64

end Binary64

namespace Decimal

open Binary64

/-! ## Written forms -/

/-- The power of ten. -/
def powerOfTen (exponent : Nat) : Nat :=
  Nat.pow 10 exponent

/-- Number of decimal digits of a natural number; zero has none. -/
def digitCount (number : Nat) : Nat :=
  if number = 0 then 0 else (Nat.toDigits 10 number).length

/-- `digits * 10 ^ exponent` written out, without zeros after the last digit behind the point. -/
def positional (digits : Nat) (exponent : Int) : String :=
  if 0 ≤ exponent then toString (digits * powerOfTen exponent.toNat)
  else
    let unit := powerOfTen (-exponent).toNat
    let places := Nat.toDigits 10 (unit + digits % unit) |>.drop 1
    let places := (places.reverse.dropWhile (· == '0')).reverse
    if places.isEmpty then toString (digits / unit)
    else toString (digits / unit) ++ "." ++ String.ofList places

/-- The decimals that read back as one double: those between `low` and `high`, counted like `middle`
in quarters of the double's last bit; the ends belong to them when `closed`. -/
structure ReadBack where
  low : Nat
  middle : Nat
  high : Nat
  closed : Bool
  exponent : Int
deriving Repr

/-- The interval of decimals that round to a double. Ties go to even, so it is closed when the
significand is even. -/
def ReadBack.ofMagnitude (value : Magnitude) : ReadBack where
  low := 4 * value.significand - (if value.narrowBelow then 1 else 2)
  middle := 4 * value.significand
  high := 4 * value.significand + 2
  closed := value.significand % 2 == 0
  exponent := value.exponent - 2

/-- One more than the power of ten of the leading digit of `numerator / denominator`, both positive.
-/
def leadingPower (numerator denominator : Nat) : Int :=
  if denominator ≤ numerator then digitCount (numerator / denominator)
  else 1 - (digitCount ((denominator - 1) / numerator) : Int)

/-- The multiple of `10 ^ power` nearest to the double that reads back as it, if one of the two
multiples next to the double does; of two equally near ones the larger. -/
def ReadBack.onGrid? (interval : ReadBack) (power : Int) : Option Nat :=
  let scale := powerOfTen (-power).toNat <<< interval.exponent.toNat
  let unit := powerOfTen power.toNat <<< (-interval.exponent).toNat
  let inside (multiple : Nat) : Bool :=
    if interval.closed then
      interval.low * scale ≤ multiple * unit && multiple * unit ≤ interval.high * scale
    else interval.low * scale < multiple * unit && multiple * unit < interval.high * scale
  let below := interval.middle * scale / unit
  let nearest :=
    if 2 * (interval.middle * scale) < (2 * below + 1) * unit then below else below + 1
  let other := if nearest = below then below + 1 else below
  if inside nearest then some nearest else if inside other then some other else none

/-- Tries grids of more and more digits; `17` digits always suffice. -/
def ReadBack.search (interval : ReadBack) (leading : Int) : (remaining digits : Nat) → Nat × Int
  | 0, _ => (interval.middle, interval.exponent)
  | remaining + 1, digits =>
      let power := leading - digits
      match interval.onGrid? power with
      | some multiple => (multiple, power)
      | none => interval.search leading remaining (digits + 1)

/-- The decimal `digits * 10 ^ power` with the fewest digits that reads back as a finite double. -/
def shortestDigits (value : Float) : Nat × Int :=
  let interval := ReadBack.ofMagnitude (magnitude value)
  let leading := leadingPower (interval.middle <<< interval.exponent.toNat)
    (1 <<< (-interval.exponent).toNat)
  interval.search leading 17 1

/-- The sign that stands before a number. -/
def sign (value : Float) : String :=
  if isNegative value then "-" else ""

/-- The fewest digits that read back as the same double, in positional notation. -/
def shortest (value : Float) : String :=
  if value.isNaN then "NaN"
  else if value.isInf then sign value ++ "inf"
  else if magnitudeBits value = 0 then sign value ++ "0"
  else
    let (digits, power) := shortestDigits value
    sign value ++ positional digits power

/-- A double with `places` digits behind the point, its exact value rounded to even at a tie. The
sign stays when all digits are zero. -/
def fixed (places : Nat) (value : Float) : String :=
  if value.isNaN then "NaN"
  else if value.isInf then sign value ++ "inf"
  else
    let exact := magnitude value
    let unit := powerOfTen places
    let scaled := divideToEven ((exact.significand * unit) <<< exact.exponent.toNat)
      (1 <<< (-exact.exponent).toNat)
    let behind := (Nat.toDigits 10 (unit + scaled % unit)).drop 1
    sign value ++ toString (scaled / unit) ++
      (if places = 0 then "" else "." ++ String.ofList behind)

/-! ## Reading a decimal number -/

/-- The number written by decimal digits. -/
def natOfDigits (digits : List Char) : Nat :=
  digits.foldl (fun number digit => 10 * number + (digit.toNat - '0'.toNat)) 0

/-- The double nearest to `digits * 10 ^ exponent`. Far outside the range of doubles the powers of
ten are not computed. -/
def nearest (digits : Nat) (exponent : Int) : Float :=
  let leading := exponent + digitCount digits
  if digits = 0 || leading < -330 then 0.0
  else if 310 < leading then Float.ofBits infinityBits.toUInt64
  else ofRatio (digits * powerOfTen exponent.toNat) (powerOfTen (-exponent).toNat)

/-- A whole number with an optional sign and at least one digit. -/
def readExponent (text : List Char) : Option Int :=
  let (negative, digits) :=
    match text with
    | '-' :: rest => (true, rest)
    | '+' :: rest => (false, rest)
    | rest => (false, rest)
  if digits.isEmpty || !digits.all Char.isDigit then none
  else
    let number : Int := natOfDigits digits
    some (if negative then -number else number)

/-- Digits with an optional point and an optional exponent, without a sign. -/
def readDigits (text : List Char) : Option Float :=
  let whole := text.takeWhile Char.isDigit
  let rest := text.dropWhile Char.isDigit
  let (places, rest) :=
    match rest with
    | '.' :: rest => (rest.takeWhile Char.isDigit, rest.dropWhile Char.isDigit)
    | rest => ([], rest)
  if whole.isEmpty && places.isEmpty then none
  else
    let exponent? :=
      match rest with
      | [] => some 0
      | mark :: rest => if mark == 'e' || mark == 'E' then readExponent rest else none
    exponent?.map fun exponent => nearest (natOfDigits (whole ++ places)) (exponent - places.length)

/-- An unsigned number: a name of infinity, the name of not-a-number, or digits. -/
def readUnsigned (text : List Char) : Option Float :=
  let name := String.ofList (text.map Char.toLower)
  if name == "inf" || name == "infinity" then some (Float.ofBits infinityBits.toUInt64)
  else if name == "nan" then some (0.0 / 0.0)
  else readDigits text

/-- Reads a whole text as one number. -/
def read? (text : String) : Option Float :=
  match text.toList with
  | '-' :: rest => (readUnsigned rest).map (- ·)
  | '+' :: rest => readUnsigned rest
  | rest => readUnsigned rest

end Decimal

end SeededMatrix
