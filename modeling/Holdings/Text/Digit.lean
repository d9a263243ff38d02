/-!
# Decimal digits of every script

Each script that writes decimal numbers has ten consecutive characters for its
digits, so the table holds the zeros and a digit's value is its distance from
the zero of its script.
-/

namespace Holdings.Text

/-- The zeros of the scripts, by code point. -/
def digitZeros : List Nat :=
  [
    0x30, 0x660, 0x6F0, 0x7C0, 0x966, 0x9E6, 0xA66, 0xAE6, 0xB66, 0xBE6, 0xC66, 0xCE6,
    0xD66, 0xDE6, 0xE50, 0xED0, 0xF20, 0x1040, 0x1090, 0x17E0, 0x1810, 0x1946, 0x19D0,
    0x1A80, 0x1A90, 0x1B50, 0x1BB0, 0x1C40, 0x1C50, 0xA620, 0xA8D0, 0xA900, 0xA9D0, 0xA9F0,
    0xAA50, 0xABF0, 0xFF10, 0x104A0, 0x10D30, 0x11066, 0x110F0, 0x11136, 0x111D0, 0x112F0,
    0x11450, 0x114D0, 0x11650, 0x116C0, 0x11730, 0x118E0, 0x11950, 0x11C50, 0x11D50,
    0x11DA0, 0x16A60, 0x16AC0, 0x16B50, 0x1D7CE, 0x1D7D8, 0x1D7E2, 0x1D7EC, 0x1D7F6,
    0x1E140, 0x1E2F0, 0x1E950, 0x1FBF0]

/-- The value of a decimal digit of any script. -/
def digitValue?
    (character : Char) :
    Option Nat :=
  (digitZeros.find? fun first =>
      first ≤ character.toNat && character.toNat < first + 10).map
    fun first => character.toNat - first

/-- The value of a hexadecimal digit; its decimal digits may be of any script. -/
def hexDigitValue?
    (character : Char) :
    Option Nat :=
  if 'a' ≤ character ∧ character ≤ 'f' then
    some (character.toNat - 'a'.toNat + 10)
  else if 'A' ≤ character ∧ character ≤ 'F' then
    some (character.toNat - 'A'.toNat + 10)
  else
    digitValue? character

/-- The value of a hexadecimal digit written in ASCII. -/
def asciiHexDigitValue?
    (character : Char) :
    Option Nat :=
  if character.toNat < 128 then hexDigitValue? character else none

/-- The lower-case hexadecimal digit of a value below sixteen. -/
def hexDigit
    (value : Nat) :
    Char :=
  if value < 10 then
    Char.ofNat ('0'.toNat + value)
  else
    Char.ofNat ('a'.toNat + (value - 10))

/-- The number that digits denote in a base, the first digit being the highest. -/
def ofDigits
    (base : Nat)
    (digits : List Nat) :
    Nat :=
  digits.foldl (fun value digit => value * base + digit) 0

@[simp]
theorem ofDigits_nil
    (base : Nat) :
    ofDigits base [] = 0 :=
  rfl

theorem ofDigits_append
    (base : Nat)
    (digits : List Nat)
    (digit : Nat) :
    ofDigits base (digits ++ [digit]) = ofDigits base digits * base + digit := by
  simp [ofDigits]

/-- The lower-case hexadecimal digits of a number, without leading zeros. -/
def hexDigits
    (value : Nat) :
    List Char :=
  Nat.toDigits 16 value

/-- The decimal digits of a number, without leading zeros. -/
def decimalDigits
    (value : Nat) :
    List Char :=
  Nat.toDigits 10 value

/-- The number of decimal digits of a number; zero has one digit. -/
def digitCount
    (value : Nat) :
    Nat :=
  (decimalDigits value).length

end Holdings.Text
