/-
Module: Pushdown.Number
Purpose: Doubles and exact numbers, and how they are written.
Main exports: Double, Double.isFinite, Double.significand, Tie, ShortDecimal, Double.shortest,
  Double.scientific, Double.plain, Double.nonFiniteName, ExactNumber, ExactNumber.plain
-/

namespace Pushdown

/-! ## Doubles

A double is the sixty-four bits of the binary interchange format: a sign, eleven bits of exponent
and fifty-two bits of fraction.  The magnitude of a finite double is `significand * 2 ^ exponent`,
with whole numbers on both places, so everything about its decimal forms is exact arithmetic.

`ofRatio` is the other direction: the double nearest to a ratio, a tie going to the even
significand.  The significand is computed as if the exponent had no upper limit; what is too
large then becomes infinite.
-/

/-- A double-precision number. -/
structure Double where
  bits : UInt64
deriving Repr, DecidableEq, Inhabited

namespace Double

/-- Two to the power of fifty-two, the least significand of a normal double. -/
def hiddenBit : Nat := 0x10000000000000

/-- The exponent of the smallest doubles. -/
def leastExponent : Int := -1074

/-- The bits of positive infinity. -/
def infinityBits : Nat := 0x7FF0000000000000

/-- The bit of the sign. -/
def signBit : Nat := 0x8000000000000000

/-- Whether the sign is set. -/
def isNegative (x : Double) : Bool := signBit ≤ x.bits.toNat

/-- The bits without the sign. -/
def magnitudeBits (x : Double) : Nat := x.bits.toNat % signBit

/-- The bits of the exponent. -/
def exponentField (x : Double) : Nat := x.magnitudeBits / hiddenBit

/-- The bits of the fraction. -/
def fractionField (x : Double) : Nat := x.magnitudeBits % hiddenBit

/-- Whether the number is neither infinite nor a NaN. -/
def isFinite (x : Double) : Bool := x.magnitudeBits < infinityBits

/-- Whether the number is a NaN. -/
def isNaN (x : Double) : Bool := infinityBits < x.magnitudeBits

/-- Whether the number is a zero of either sign. -/
def isZero (x : Double) : Bool := x.magnitudeBits == 0

/-- The whole number that the magnitude of a finite double is a multiple of a power of two by. -/
def significand (x : Double) : Nat :=
  if x.exponentField = 0 then x.fractionField else hiddenBit + x.fractionField

/-- The exponent of the power of two that the significand counts. -/
def exponent (x : Double) : Int :=
  if x.exponentField = 0 then leastExponent else leastExponent + (x.exponentField - 1)

/-- The magnitude of a finite double as a ratio of whole numbers. -/
def ratio (x : Double) : Nat × Nat :=
  (x.significand * Nat.pow 2 x.exponent.toNat, Nat.pow 2 (-x.exponent).toNat)

/-- The double with given magnitude bits and sign. -/
def ofMagnitude (negative : Bool) (magnitude : Nat) : Double :=
  ⟨UInt64.ofNat (if negative then signBit + magnitude else magnitude)⟩

/-- The whole number nearest to a ratio, a tie going to the even one. -/
def roundHalfEven (numerator denominator : Nat) : Nat :=
  let floor := numerator / denominator
  let rest := numerator % denominator
  if 2 * rest < denominator then floor
  else if denominator < 2 * rest then floor + 1
  else if floor % 2 = 0 then floor else floor + 1

/-- The greatest power of two that is at most a positive ratio. -/
def floorLog2 (numerator denominator : Nat) : Int :=
  let estimate : Int := (Nat.log2 numerator : Int) - Nat.log2 denominator
  if denominator * Nat.pow 2 estimate.toNat ≤ numerator * Nat.pow 2 (-estimate).toNat then
    estimate
  else estimate - 1

/-- The double nearest to a ratio with positive denominator, a tie going to the even one. -/
def ofRatio (negative : Bool) (numerator denominator : Nat) : Double :=
  if numerator = 0 then ofMagnitude negative 0
  else
    let exponent := max leastExponent (floorLog2 numerator denominator - 52)
    let significand :=
      roundHalfEven (numerator * Nat.pow 2 (-exponent).toNat)
        (denominator * Nat.pow 2 exponent.toNat)
    let magnitude := (exponent - leastExponent + 1).toNat * hiddenBit + significand - hiddenBit
    ofMagnitude negative (min magnitude infinityBits)

/-- The product of two finite doubles, rounded. -/
def times (x y : Double) : Double :=
  let (numerator, denominator) := x.ratio
  let (otherNumerator, otherDenominator) := y.ratio
  ofRatio (x.isNegative != y.isNegative)
    (numerator * otherNumerator) (denominator * otherDenominator)

/-- The quotient of two finite doubles with non-zero divisor, rounded. -/
def dividedBy (x y : Double) : Double :=
  let (numerator, denominator) := x.ratio
  let (otherNumerator, otherDenominator) := y.ratio
  ofRatio (x.isNegative != y.isNegative)
    (numerator * otherDenominator) (denominator * otherNumerator)

end Double

/-! ## The shortest digits of a double

A decimal reads back as a double when it lies in the interval of numbers that round to it: half
the distance to the next double on either side, the ends included when the significand is even.
Below a power of two the next double is only half as far away.

For one digit, two digits and so on, the only decimals of that many digits that can lie in the
interval and be nearest are the two next to the double on the grid of such decimals.  The first
grid with a neighbour in the interval wins; of two such neighbours the nearer is taken, and which
one when both are equally near is left to the caller.  Seventeen digits always suffice.
-/

/-- Which of two equally near decimals is taken. -/
inductive Tie where
  | greater
  | even
deriving Repr, DecidableEq

/-- The number `significand * 10 ^ exponent`. -/
structure ShortDecimal where
  significand : Nat
  exponent : Int
deriving Repr, DecidableEq

/-- The number of decimal digits of a whole number. -/
def decimalLength (n : Nat) : Nat := (Nat.toDigits 10 n).length

/-- The greatest power of ten that is at most a positive ratio. -/
def floorLog10 (numerator denominator : Nat) : Int :=
  if denominator ≤ numerator then decimalLength (numerator / denominator) - 1
  else
    let ceiling := (denominator + numerator - 1) / numerator
    0 - (decimalLength (ceiling - 1) : Int)

namespace Double

/-- The numbers that round to a double, in quarters of its last place: the lower end, the double
itself and the upper end, and whether the ends belong to it. -/
structure Interval where
  lower : Nat
  centre : Nat
  upper : Nat
  closed : Bool
deriving Repr, DecidableEq

/-- The interval of a finite double other than zero. -/
def interval (x : Double) : Interval :=
  let m := x.significand
  let narrow := m = hiddenBit && leastExponent < x.exponent
  ⟨4 * m - (if narrow then 1 else 2), 4 * m, 4 * m + 2, m % 2 == 0⟩

/-- Whether a number lies in an interval, all given as multiples of one unit. -/
def Interval.holds (interval : Interval) (scale number : Nat) : Bool :=
  if interval.closed then interval.lower * scale ≤ number && number ≤ interval.upper * scale
  else interval.lower * scale < number && number < interval.upper * scale

/-- The best of the two neighbours on one grid.  `scale` is what a quarter of the last place is
worth and `step` the distance of the grid points, both in one unit. -/
def onGrid? (tie : Tie) (interval : Interval) (scale step : Nat) : Option Nat :=
  let centre := interval.centre * scale
  let below := centre / step
  let rest := centre % step
  match interval.holds scale (below * step), interval.holds scale ((below + 1) * step) with
  | false, false => none
  | true, false => some below
  | false, true => some (below + 1)
  | true, true =>
    if 2 * rest < step then some below
    else if step < 2 * rest then some (below + 1)
    else
      match tie with
      | .greater => some (below + 1)
      | .even => if below % 2 = 0 then some below else some (below + 1)

/-- Tries grids of more and more digits; `leading` is the decimal exponent of the first digit. -/
def searchGrids (tie : Tie) (interval : Interval) (binary leading : Int) :
    (digits fuel : Nat) → ShortDecimal
  | _, 0 => ⟨0, 0⟩
  | digits, fuel + 1 =>
    let exponent := leading + 1 - digits
    let scale := Nat.pow 2 binary.toNat * Nat.pow 10 (-exponent).toNat
    let step := Nat.pow 2 (-binary).toNat * Nat.pow 10 exponent.toNat
    match onGrid? tie interval scale step with
    | some significand => ⟨significand, exponent⟩
    | none => searchGrids tie interval binary leading (digits + 1) fuel

/-- The shortest decimal that reads back as a finite double, up to its sign. -/
def shortest (tie : Tie) (x : Double) : ShortDecimal :=
  if x.isZero then ⟨0, 0⟩
  else
    let (numerator, denominator) := x.ratio
    searchGrids tie x.interval (x.exponent - 2) (floorLog10 numerator denominator) 1 17

end Double

/-! ## Doubles as text

SQL literals are always scientific: one digit, the other digits after a point if there are any,
an `E` and the exponent, with no plus sign and no padding.  Documents write numbers of moderate
size positionally, always with a point, and the rest with a small `e`.
-/

/-- The digits of a decimal without trailing zeros, and the decimal exponent of the first. -/
def ShortDecimal.digits (decimal : ShortDecimal) : List Char × Int :=
  let all := Nat.toDigits 10 decimal.significand
  let kept := (all.reverse.dropWhile (· == '0')).reverse
  (if kept = [] then ['0'] else kept, decimal.exponent + all.length - 1)

namespace Double

/-- The digits of a finite double with the exponent of the first; the exponent of zero is zero. -/
def shortestDigits (tie : Tie) (x : Double) : List Char × Int :=
  (x.shortest tie).digits

/-- A sign if the number is negative. -/
def signText (x : Double) : String := if x.isNegative then "-" else ""

/-- One digit, then the others behind a point. -/
def pointAfterFirst : List Char → String
  | [] => ""
  | [digit] => String.ofList [digit]
  | digit :: rest => String.ofList (digit :: '.' :: rest)

/-- The literal of a finite double in SQL. -/
def scientific (x : Double) : String :=
  let (digits, exponent) := x.shortestDigits .greater
  x.signText ++ pointAfterFirst digits ++ "E" ++ toString exponent

/-- The name of a double that is not finite. -/
def nonFiniteName (x : Double) : String :=
  if x.isNaN then "NaN" else if x.isNegative then "-inf" else "inf"

/-- The positional form of digits whose first has a given decimal exponent. -/
def positional (digits : List Char) (exponent : Int) : String :=
  if exponent < 0 then
    String.ofList ('0' :: '.' :: List.replicate (-exponent - 1).toNat '0' ++ digits)
  else
    let whole := exponent.toNat + 1
    if digits.length ≤ whole then
      String.ofList (digits ++ List.replicate (whole - digits.length) '0' ++ ['.', '0'])
    else String.ofList (digits.take whole ++ '.' :: digits.drop whole)

/-- The form of a finite double in a document. -/
def plain (x : Double) : String :=
  let (digits, exponent) := x.shortestDigits .even
  x.signText ++
    if -5 ≤ exponent && exponent < 16 then positional digits exponent
    else pointAfterFirst digits ++ "e" ++ toString exponent

end Double

/-! ## Exact numbers

An exact number is a whole number together with a count of decimal places.  The places are part
of the literal: a remote engine derives the type of the literal from them, so none may be dropped
or added.  A negative count stands for zeros after the digits.
-/

/-- The number `unscaled * 10 ^ (-scale)`. -/
structure ExactNumber where
  unscaled : Int
  scale : Int
deriving Repr, DecidableEq, Inhabited

namespace ExactNumber

/-- The digits of the magnitude with the point placed, or with zeros appended. -/
def magnitudeText (number : ExactNumber) : List Char :=
  let digits := Nat.toDigits 10 number.unscaled.natAbs
  let places := number.scale.toNat
  if number.scale ≤ 0 then digits ++ List.replicate (-number.scale).toNat '0'
  else
    let padded := List.replicate (places + 1 - digits.length) '0' ++ digits
    padded.take (padded.length - places) ++ '.' :: padded.drop (padded.length - places)

/-- The literal without exponent, with exactly the places that the scale asks for. -/
def plain (number : ExactNumber) : String :=
  String.ofList ((if number.unscaled < 0 then ['-'] else []) ++ number.magnitudeText)

end ExactNumber

end Pushdown
