/-!
# Binary floating-point numbers

A finite number of the binary64 format is a sign and a magnitude.  Every finite
magnitude is a whole multiple of the smallest positive one, `2 ^ (-1074)`, so
the magnitude is held as that multiple and arithmetic on it is exact until a
result is rounded.  Rounding goes to the nearest number of the format, a half
to the neighbour with the even significand, and beyond the largest magnitude
to infinity.
-/

namespace Holdings

/-- A binary64 number; a finite magnitude counts multiples of `2 ^ (-1074)`. -/
inductive Double where
  | nan
  | infinite (negative : Bool)
  | finite (negative : Bool) (units : Nat)
deriving DecidableEq, Repr, Inhabited

namespace Double

/-- The number of smallest magnitudes in the number one. -/
def unitsPerOne : Nat := Nat.pow 2 1074

/-- The first count of units that no finite number has. -/
def unitsLimit : Nat := Nat.pow 2 2098

/-- The quotient of two numbers rounded to the nearest integer, a half to the even one. -/
def roundQuotient
    (numerator denominator : Nat) :
    Nat :=
  let quotient := numerator / denominator
  let doubledRest := 2 * (numerator % denominator)
  if doubledRest < denominator then
    quotient
  else if denominator < doubledRest then
    quotient + 1
  else
    quotient + quotient % 2

/-- The bits that a magnitude has beyond the 53 of a significand. -/
def excessBits
    (units : Nat) :
    Nat :=
  units.log2 + 1 - 53

/-- The number nearest to a quotient. -/
def ofRatio
    (negative : Bool)
    (numerator denominator : Nat) :
    Double :=
  let scaled := numerator * unitsPerOne
  let scale := Nat.pow 2 (excessBits (scaled / denominator))
  let units := roundQuotient scaled (denominator * scale) * scale
  if units < unitsLimit then .finite negative units else .infinite negative

/-- The number nearest to an integer. -/
def ofInt
    (value : Int) :
    Double :=
  ofRatio (decide (value < 0)) value.natAbs 1

/--
The number nearest to `digits * 10 ^ exponent`.  A value far outside the range of
the format is recognised by its length, before any power is computed.
-/
def ofDecimal
    (negative : Bool)
    (digits : Nat)
    (length : Nat)
    (exponent : Int) :
    Double :=
  if digits = 0 then
    .finite negative 0
  else if 400 < (length : Int) + exponent then
    .infinite negative
  else if (length : Int) + exponent < -400 then
    .finite negative 0
  else if 0 ≤ exponent then
    ofRatio negative (digits * Nat.pow 10 exponent.toNat) 1
  else
    ofRatio negative digits (Nat.pow 10 (-exponent).toNat)

/-- The integer that a finite number reaches when its fraction is dropped. -/
def truncate? : Double → Option Int
  | .finite negative units =>
    let whole : Int := (units / unitsPerOne : Nat)
    some (if negative then -whole else whole)
  | _ => none

/-- The integer that a number equals, if it equals one. -/
def toInt? : Double → Option Int
  | .finite negative units =>
    if units % unitsPerOne = 0 then truncate? (.finite negative units) else none
  | _ => none

/-- Whether a number is zero, of either sign. -/
def isZero : Double → Bool
  | .finite _ units => units = 0
  | _ => false

/-- Whether a number is neither infinite nor undefined. -/
def isFinite : Double → Bool
  | .finite _ _ => true
  | _ => false

/-- The signed count of units of a finite number. -/
def signedUnits
    (negative : Bool)
    (units : Nat) :
    Int :=
  if negative then -(units : Int) else units

/-- The nearest number to a signed count of units; a zero takes the given sign. -/
def ofSignedUnits
    (zeroNegative : Bool)
    (units : Int) :
    Double :=
  let negative := if units = 0 then zeroNegative else decide (units < 0)
  ofRatio negative units.natAbs unitsPerOne

/-- The sum of two numbers, rounded once. -/
def add : Double → Double → Double
  | .nan, _ => .nan
  | _, .nan => .nan
  | .infinite left, .infinite right => if left = right then .infinite left else .nan
  | .infinite left, .finite _ _ => .infinite left
  | .finite _ _, .infinite right => .infinite right
  | .finite left leftUnits, .finite right rightUnits =>
    ofSignedUnits (left && right)
      (signedUnits left leftUnits + signedUnits right rightUnits)

/-- The quotient of a number and a positive integer, rounded once. -/
def divNat : Double → Nat → Double
  | .finite negative units, divisor => ofRatio negative units (unitsPerOne * divisor)
  | value, _ => value

/-- The integer nearest to a finite number, a half going to the even one. -/
def round? : Double → Option Int
  | .finite negative units =>
    let whole : Int := (roundQuotient units unitsPerOne : Nat)
    some (if negative then -whole else whole)
  | _ => none

end Double

end Holdings
