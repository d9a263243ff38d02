import Holdings.Fault
import Holdings.Text.Digit

/-!
# Decimal arithmetic in a context

A decimal number is a coefficient with an exponent of ten.  A context bounds what
an operation may come to: the coefficient is rounded to the precision, half to
even, and a number whose leading digit has too large an exponent is a fault.  No
digit is kept below the smallest exponent, so that a small number may lose some
of its digits, or all of them.  Whether a result is exact depends on the
precision, and nothing here asks for it.
-/

namespace Holdings.Amount

open Holdings.Text

/-- The number `coefficient * 10 ^ exponent`. -/
structure Decimal where
  coefficient : Nat
  exponent : Int
deriving DecidableEq, Repr, Inhabited

/-- The largest working precision. -/
def precisionCap : Int := 999999999999999999

/-- The largest signed machine word. -/
def wordCap : Int := 9223372036854775807

/-- The largest exponent of a leading digit after scaling. -/
def scaledExponentCap : Int := 999999

/-- Drops so many digits at the end; what they come to rounds the rest, half to even. -/
def roundDigits
    (coefficient count : Nat) :
    Nat :=
  if digitCount coefficient < count then
    0
  else
    let unit := Nat.pow 10 count
    let kept := coefficient / unit
    let dropped := coefficient % unit
    if unit < 2 * dropped || (unit = 2 * dropped && kept % 2 = 1) then kept + 1 else kept

/-- The text of digits in front of and behind a point; an empty fraction has no point. -/
def joinPoint
    (whole fraction : List Char) :
    String :=
  if fraction.isEmpty then
    String.ofList whole
  else
    String.ofList (whole ++ '.' :: fraction)

namespace Decimal

/-- The number of digits of the coefficient; zero has one. -/
def length
    (number : Decimal) :
    Nat :=
  digitCount number.coefficient

/-- A number, unless its leading digit has too large an exponent. -/
def bounded
    (number : Decimal) :
    Except Fault Decimal :=
  if scaledExponentCap < number.exponent + number.length - 1 then
    .error .exponentOverflow
  else
    .ok number

/-- The number of zeros at the end of the coefficient. -/
def trailingZeros
    (number : Decimal) :
    Nat :=
  ((decimalDigits number.coefficient).reverse.takeWhile (· = '0')).length

/-- The integer that a number is, if it is one. -/
def integer?
    (number : Decimal) :
    Option Nat :=
  if number.coefficient = 0 then
    some 0
  else if 0 ≤ number.exponent then
    some (number.coefficient * Nat.pow 10 number.exponent.toNat)
  else if (number.length : Int) ≤ -number.exponent then
    none
  else
    let divisor := Nat.pow 10 (-number.exponent).toNat
    if number.coefficient % divisor = 0 then some (number.coefficient / divisor) else none

/-- The text of a number without an exponent: zeros are filled in up to the point. -/
def plainText
    (number : Decimal) :
    String :=
  let exponent := if number.coefficient = 0 then min number.exponent 0 else number.exponent
  let digits := decimalDigits number.coefficient
  let point := exponent + digits.length
  if point < 0 then
    joinPoint ['0'] (List.replicate (-point).toNat '0' ++ digits)
  else if (digits.length : Int) < point then
    joinPoint (digits ++ List.replicate exponent.toNat '0') []
  else
    let whole := digits.take point.toNat
    joinPoint (if whole.isEmpty then ['0'] else whole) (digits.drop point.toNat)

end Decimal

/-- What bounds the results of operations: how many digits they may have. -/
structure Context where
  precision : Nat
deriving DecidableEq, Repr, Inhabited

namespace Context

/-- The context for a number of so many digits and decimals, if there is one. -/
def forDigits
    (digits decimals : Nat) :
    Except Fault Context :=
  let precision := digits + decimals + 2
  if wordCap < precision then
    .error .precisionOverflow
  else if precisionCap < precision then
    .error .precisionLimit
  else
    .ok ⟨precision⟩

/-- The smallest exponent that the last digit of a number may have. -/
def smallestExponent
    (context : Context) :
    Int :=
  -scaledExponentCap - context.precision + 1

/-- The exponent that the last digit of a number has to have at least. -/
def lastExponent
    (context : Context)
    (number : Decimal) :
    Int :=
  max (number.exponent + number.length - context.precision) context.smallestExponent

/-- Brings a number within the bounds of a context. -/
def round
    (context : Context)
    (number : Decimal) :
    Except Fault Decimal :=
  if number.coefficient = 0 then
    .ok ⟨0, max context.smallestExponent (min number.exponent scaledExponentCap)⟩
  else do
    let number ← number.bounded
    let last := context.lastExponent number
    if last ≤ number.exponent then
      return number
    else
      let rounded := ⟨roundDigits number.coefficient (last - number.exponent).toNat, last⟩
      -- Rounding up nines makes a digit more, which is a zero.
      if context.precision < Decimal.length rounded then
        Decimal.bounded ⟨rounded.coefficient / 10, last + 1⟩
      else
        return rounded

/-- Moves the point of a number by so many places to the right. -/
def scaleBy
    (context : Context)
    (number : Decimal)
    (places : Int) :
    Except Fault Decimal :=
  if 2 * (scaledExponentCap + context.precision) < places.natAbs then
    .error .scaleOutOfRange
  else
    context.round { number with exponent := number.exponent + places }

/-- Drops the zeros at the end of a number as far as its exponent may grow. -/
def reduce
    (context : Context)
    (number : Decimal) :
    Except Fault Decimal := do
  let rounded ← context.round number
  if rounded.coefficient = 0 then
    return ⟨0, 0⟩
  else
    let count := min rounded.trailingZeros (scaledExponentCap - rounded.exponent).toNat
    return ⟨rounded.coefficient / Nat.pow 10 count, rounded.exponent + count⟩

end Context

end Holdings.Amount
