import Holdings.Amount.Context
import Holdings.Amount.Raw
import Holdings.Number.Numeral

/-!
# Smallest units and whole units

An asset with `d` decimals counts `10 ^ d` smallest units to one whole unit.
`normalize` writes an amount of smallest units as a plain decimal number of
whole units, without an exponent and without superfluous zeros, and
`toSmallestUnit` reads such a number back.

Both compute in a context whose precision is made for the number of digits of the
operand and for its decimals.  The precision is bounded, so decimals beyond the
bound are refused.
-/

namespace Holdings.Amount

open Holdings.Text

/-- Refuses decimals below zero. -/
def checkDecimals
    (decimals : Int) :
    Except Fault Nat :=
  if decimals < 0 then
    .error (Fault.naming (.int decimals) (.invalidDecimals decimals))
  else
    .ok decimals.toNat

/-- Writes an amount of smallest units, however it was given, in whole units. -/
def normalize
    (given : Json)
    (decimals : Int) :
    Except Fault String := do
  let places ← checkDecimals decimals
  let amount ← read given
  if amount = 0 then
    return "0"
  else if Nat.pow 10 numeralLimit ≤ amount then
    throw .digitLimit
  else
    let context ← Context.forDigits (digitCount amount) places
    let scaled ← context.scaleBy ⟨amount, 0⟩ (-places)
    let reduced ← context.reduce scaled
    return reduced.plainText

/-- Reads a decimal number of whole units as an amount of smallest units. -/
def toSmallestUnit
    (given : Json)
    (decimals : Int) :
    Except Fault String := do
  let places ← checkDecimals decimals
  if !given.isShowable then
    throw .digitLimit
  match Numeral.ofText? given.shown with
  | none => throw (.invalidNumeral given)
  | some numeral =>
    if numeral.negative && !numeral.isZero then
      throw (.invalidNumeral given)
    else
      let context ← Context.forDigits numeral.length places
      let scaled ← context.scaleBy ⟨numeral.coefficient, numeral.exponent⟩ places
      match scaled.integer? with
      | some amount => print amount
      | none => throw (.tooManyPlaces given decimals)

end Holdings.Amount
