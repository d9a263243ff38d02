import Holdings.Text.Blank
import Holdings.Text.Digit

/-!
# Decimal numerals

A decimal numeral has an optional sign, digits of any script with at most one
point among them, and an optional exponent.  Underscores are skipped wherever
they stand.  A numeral is read exactly; it is refused when its exponent leaves
the range in which decimal numbers are kept.
-/

namespace Holdings

open Holdings.Text

/-- The number `± digits * 10 ^ exponent`, the digits being without leading zeros. -/
structure Numeral where
  negative : Bool
  digits : List Nat
  exponent : Int
deriving DecidableEq, Repr, Inhabited

namespace Numeral

/-- The largest exponent that a leading digit may have. -/
def exponentLimit : Int := 999999999999999999

/-- The smallest exponent that a last digit may have. -/
def exponentFloor : Int := -1999999999999999997

/-- The integer that the digits form. -/
def coefficient
    (numeral : Numeral) :
    Nat :=
  ofDigits 10 numeral.digits

/-- Whether a numeral denotes zero. -/
def isZero
    (numeral : Numeral) :
    Bool :=
  numeral.digits.isEmpty

/-- The number of digits of the coefficient; zero has one. -/
def length
    (numeral : Numeral) :
    Nat :=
  max 1 numeral.digits.length

/-- The digits at the front of a list, and what follows them. -/
def takeDigits
    (characters : List Char) :
    List Nat × List Char :=
  match characters with
  | [] => ([], [])
  | character :: rest =>
    match digitValue? character with
    | some digit =>
      let (digits, remaining) := takeDigits rest
      (digit :: digits, remaining)
    | none => ([], characters)

@[simp]
theorem takeDigits_nil :
    takeDigits [] = ([], []) :=
  rfl

/-- The sign in front of a number, and what follows it. -/
def takeSign
    (characters : List Char) :
    Bool × List Char :=
  match characters with
  | '-' :: rest => (true, rest)
  | '+' :: rest => (false, rest)
  | _ => (false, characters)

/-- The exponent that ends a numeral; no characters are the exponent zero. -/
def readExponent
    (characters : List Char) :
    Option Int :=
  match characters with
  | [] => some 0
  | mark :: rest =>
    if mark = 'e' ∨ mark = 'E' then
      let (negative, unsigned) := takeSign rest
      match takeDigits unsigned with
      | ([], _) => none
      | (digits, []) =>
        let size : Int := (ofDigits 10 digits : Nat)
        some (if negative then -size else size)
      | (_, _ :: _) => none
    else
      none

/-- The digits in front of and behind the point, and what follows them. -/
def takePlaces
    (characters : List Char) :
    List Nat × List Nat × List Char :=
  let (whole, afterWhole) := takeDigits characters
  match afterWhole with
  | '.' :: rest =>
    let (places, remaining) := takeDigits rest
    (whole, places, remaining)
  | _ => (whole, [], afterWhole)

/-- Whether a numeral lies in the range in which decimal numbers are kept. -/
def isKept
    (numeral : Numeral) :
    Bool :=
  numeral.exponent + numeral.length - 1 ≤ exponentLimit &&
    exponentFloor ≤ numeral.exponent

/-- Reads a numeral from characters without blanks and underscores. -/
def ofCharacters?
    (characters : List Char) :
    Option Numeral :=
  let (negative, unsigned) := takeSign characters
  let (whole, places, rest) := takePlaces unsigned
  if (whole ++ places).isEmpty then
    none
  else
    match readExponent rest with
    | none => none
    | some exponent =>
      let numeral : Numeral :=
        { negative := negative
          digits := (whole ++ places).dropWhile (· = 0)
          exponent := exponent - places.length }
      if numeral.isKept then some numeral else none

/-- Reads a numeral; blanks around it and underscores anywhere are skipped. -/
def ofText?
    (text : String) :
    Option Numeral :=
  ofCharacters? ((trimList text.toList).filter (· ≠ '_'))

/-- Characters without the underscores between digits; an underscore elsewhere refuses them. -/
def withoutDividers
    (characters : List Char) :
    Option (List Char) :=
  match characters with
  | [] => some []
  | '_' :: _ => none
  | character :: '_' :: next :: rest =>
    if (digitValue? character).isSome && (digitValue? next).isSome then
      (withoutDividers (next :: rest)).map (character :: ·)
    else
      none
  | character :: rest => (withoutDividers rest).map (character :: ·)

/-- Whether a word stands for an infinite or an undefined number, in any case. -/
def isUnboundedWord
    (characters : List Char) :
    Bool :=
  ["inf", "infinity", "nan"].contains (String.ofList (characters.map Char.toLower))

/-- Whether characters are digits with at most one point among them and an optional exponent. -/
def isDecimal
    (characters : List Char) :
    Bool :=
  let (whole, places, rest) := takePlaces characters
  !(whole ++ places).isEmpty && (readExponent rest).isSome

/-- Whether a text denotes a floating-point number, however large or small. -/
def denotesReal
    (text : String) :
    Bool :=
  let (_, unsigned) := takeSign (stripEnds isNumeralGap text.toList)
  isUnboundedWord unsigned || (withoutDividers unsigned).any isDecimal

end Numeral

end Holdings
