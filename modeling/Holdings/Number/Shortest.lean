import Holdings.Number.Double
import Holdings.Text.Digit

/-!
# The shortest text of a floating-point number

The text of a finite number has the fewest digits that read back as the number
and, among those, the digits nearest to it.  The digits are written
positionally when the decimal exponent lies between -4 and 15, with `.0` behind
an integer, and with an exponent of at least two digits otherwise.
-/

namespace Holdings.Double

open Holdings.Text

/-- The exponent of the leading decimal digit of a positive quotient. -/
def leadingExponent
    (numerator denominator : Nat) :
    Int :=
  if denominator ≤ numerator then
    (digitCount (numerator / denominator) : Int) - 1
  else
    let inverse := (denominator + numerator - 1) / numerator
    Int.negOfNat (digitCount (inverse - 1))

/-- The real numbers that read back as one magnitude, with a common denominator. -/
structure ReadingInterval where
  low : Nat
  high : Nat
  denominator : Nat
  closed : Bool

/-- The interval around a positive magnitude whose members round to it. -/
def readingInterval
    (units : Nat) :
    ReadingInterval :=
  let excess := excessBits units
  let step := Nat.pow 2 excess
  let significand := units / step
  let lowerGap := if excess ≠ 0 && significand = Nat.pow 2 52 then step else 2 * step
  { low := 4 * units - lowerGap
    high := 4 * units + 2 * step
    denominator := 4 * unitsPerOne
    closed := significand % 2 = 0 }

/-- Whether `digits * 10 ^ exponent` lies in the interval. -/
def ReadingInterval.holds
    (interval : ReadingInterval)
    (digits : Nat)
    (exponent : Int) :
    Bool :=
  let value := digits * interval.denominator * Nat.pow 10 exponent.toNat
  let low := interval.low * Nat.pow 10 (-exponent).toNat
  let high := interval.high * Nat.pow 10 (-exponent).toNat
  if interval.closed then
    low ≤ value && value ≤ high
  else
    low < value && value < high

/--
The digits, on the decimal grid of an exponent, nearest to a magnitude among its two
neighbours that read back as it; of two equally near ones the even one.
-/
def nearestOnGrid
    (units : Nat)
    (exponent : Int) :
    Option Nat :=
  let interval := readingInterval units
  let numerator := units * Nat.pow 10 (-exponent).toNat
  let denominator := unitsPerOne * Nat.pow 10 exponent.toNat
  let below := numerator / denominator
  let above := below + 1
  match interval.holds below exponent, interval.holds above exponent with
  | true, true => some (roundQuotient numerator denominator)
  | true, false => some below
  | false, true => some above
  | false, false => none

/-- The digits and the exponent of the last one, trying grids from coarse to fine. -/
def shortestFrom
    (units : Nat)
    (exponent : Int) :
    Nat → Nat × Int
  | 0 =>
    ((units * Nat.pow 10 (-exponent).toNat) / (unitsPerOne * Nat.pow 10 exponent.toNat), exponent)
  | attempts + 1 =>
    match nearestOnGrid units exponent with
    | some digits => (digits, exponent)
    | none => shortestFrom units (exponent - 1) attempts

/-- The fewest digits that read back as a positive magnitude, and the last one's exponent. -/
def shortest
    (units : Nat) :
    Nat × Int :=
  shortestFrom units (leadingExponent units unitsPerOne) 17

/-- Drops the zeros that end a list of digits. -/
def dropFinalZeros
    (digits : List Char) :
    List Char :=
  (digits.reverse.dropWhile (· = '0')).reverse

/-- Writes digits whose first stands at a decimal exponent. -/
def layOut
    (digits : List Char)
    (exponent : Int) :
    List Char :=
  if -4 ≤ exponent ∧ exponent < 16 then
    if exponent < 0 then
      '0' :: '.' :: List.replicate (-exponent - 1).toNat '0' ++ digits
    else
      let places := exponent.toNat + 1
      let whole := digits.take places ++ List.replicate (places - digits.length) '0'
      let fraction := digits.drop places
      whole ++ '.' :: (if fraction.isEmpty then ['0'] else fraction)
  else
    let mantissa :=
      match digits with
      | [] => []
      | [only] => [only]
      | leading :: fraction => leading :: '.' :: fraction
    let size := decimalDigits exponent.natAbs
    mantissa ++ 'e' :: (if exponent < 0 then '-' else '+') ::
      (List.replicate (2 - size.length) '0' ++ size)

/-- The text of a number. -/
def toText : Double → String
  | .nan => "nan"
  | .infinite negative => if negative then "-inf" else "inf"
  | .finite negative units =>
    let sign := if negative then ['-'] else []
    if units = 0 then
      String.ofList (sign ++ ['0', '.', '0'])
    else
      let (digits, exponent) := shortest units
      let written := decimalDigits digits
      let leading := exponent + written.length - 1
      String.ofList (sign ++ layOut (dropFinalZeros written) leading)

end Holdings.Double
