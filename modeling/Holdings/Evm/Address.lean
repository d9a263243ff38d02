import Holdings.Codec.Bytes
import Holdings.Fault
import Holdings.Hash.Keccak
import Holdings.Text.Integer

/-!
# EVM addresses

An address is forty hexadecimal digits behind `0x`.  In its checked form the
case of each letter is a bit of the hash of the address.  A value is brought to
hexadecimal text first, so that integers and texts without the mark will do.
-/

namespace Holdings.Evm

open Holdings.Text

/-- Whether a character is a hexadecimal digit of ASCII. -/
def isHexDigit
    (character : Char) :
    Bool :=
  (asciiHexDigitValue? character).isSome

/-- A text without its hexadecimal mark, if it has one. -/
def withoutMark
    (characters : List Char) :
    List Char :=
  (afterHexMark characters).getD characters

/-- Whether a text holds nothing but hexadecimal digits, behind a mark or not. -/
def isHexText
    (text : String) :
    Bool :=
  (withoutMark text.toList).all isHexDigit

/-- The lower-case hexadecimal digits of a text that holds nothing else behind its mark. -/
def hexDigitsOf?
    (text : String) :
    Option (List Char) :=
  if isHexText text then
    some ((withoutMark text.toList).map Char.toLower)
  else
    none

/-- The hexadecimal text of an integer, with its sign in front of the mark. -/
def signedHexText
    (value : Int) :
    String :=
  (if value < 0 then "-" else "") ++ hexText value.natAbs

/-- The lower-case hexadecimal text of a value. -/
def toHexText : Json → Except Fault String
  | .text written =>
    match hexDigitsOf? written with
    | some digits => .ok (String.ofList ('0' :: 'x' :: digits))
    | none => .error (.notAHexText written)
  | .int value => .ok (signedHexText value)
  | .bool value => .ok (if value then "0x1" else "0x0")
  | _ => .error .wrongShape

/-- Whether a lower-case text is the mark and forty hexadecimal digits. -/
def isAddressText
    (text : String) :
    Bool :=
  match text.toList with
  | '0' :: 'x' :: digits => digits.length = 40 && digits.all isHexDigit
  | _ => false

/-- Gives each letter of an address the case that the hash of the address tells. -/
def checkDigits
    (digits : List Char) :
    List Char :=
  let hashDigits := Bytes.toHexDigits (Keccak.hash (Bytes.ofAscii (String.ofList digits)))
  digits.zipWith
    (fun digit hashDigit =>
      if 7 < (asciiHexDigitValue? hashDigit).getD 0 then digit.toUpper else digit)
    hashDigits

/-- The checked form of an address. -/
def checkedAddress
    (given : Json) :
    Except Fault String := do
  let normalized ← toHexText given
  if isAddressText normalized then
    return String.ofList ('0' :: 'x' :: checkDigits (normalized.toList.drop 2))
  else
    throw (Fault.naming given (.unknownAddressFormat given normalized))

/-- Call data as lower-case hexadecimal text with an even number of digits. -/
def callData
    (given : Json) :
    Except Fault String := do
  let even (digits : List Char) : String :=
    String.ofList ('0' :: 'x' :: (if digits.length % 2 = 0 then digits else '0' :: digits))
  match given with
  | .text written =>
    match hexDigitsOf? written with
    | some digits => return even digits
    | none => throw (.callDataNotHex written)
  | .int value =>
    if value < 0 then throw .negativeCallData else return even (hexDigits value.toNat)
  | .bool value => return if value then "0x01" else "0x00"
  | _ => throw .wrongShape

end Holdings.Evm
