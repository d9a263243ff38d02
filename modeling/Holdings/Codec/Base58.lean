import Holdings.Codec.Bytes

/-!
# Base 58

A byte string is read as a number with the highest byte first and written with
the 58 digits that are hard to confuse.  Each zero byte at the front becomes
one digit for zero, so that the length is kept.
-/

namespace Holdings.Base58

/-- The digits, by value. -/
def alphabet : List Char :=
  "123456789ABCDEFGHJKLMNPQRSTUVWXYZabcdefghijkmnopqrstuvwxyz".toList

/-- The digit of a value. -/
def digit
    (value : Nat) :
    Char :=
  alphabet.getD value '1'

/-- The value of a digit. -/
def digitValue?
    (character : Char) :
    Option Nat :=
  alphabet.findIdx? fun known => known = character

/-- The digits of a number, the highest first; zero has none. -/
def numberDigits
    (value : Nat) :
    List Char :=
  if value = 0 then
    []
  else
    numberDigits (value / 58) ++ [digit (value % 58)]
termination_by value
decreasing_by omega

/-- The bytes of a number, the highest first; zero has none. -/
def numberBytes
    (value : Nat) :
    Bytes :=
  if value = 0 then
    []
  else
    numberBytes (value / 256) ++ [UInt8.ofNat (value % 256)]
termination_by value
decreasing_by omega

/-- Writes a byte string. -/
def encode
    (bytes : Bytes) :
    String :=
  let zeros := (bytes.takeWhile (· = 0)).length
  String.ofList (List.replicate zeros '1' ++ numberDigits (Bytes.bigEndian bytes))

/-- Reads a byte string. -/
def decode?
    (text : String) :
    Option Bytes :=
  let characters := text.toList
  (characters.mapM digitValue?).map fun values =>
    let zeros := (characters.takeWhile (· = '1')).length
    List.replicate zeros 0 ++ numberBytes (Text.ofDigits 58 values)

end Holdings.Base58
