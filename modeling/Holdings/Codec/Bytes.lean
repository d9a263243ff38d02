import Holdings.Text.Digit

/-!
# Byte strings

A byte string is a list of bytes.  Its numeric values are read with the lowest
or with the highest byte first, and its hexadecimal text has two digits a byte.
-/

namespace Holdings

/-- A string of bytes. -/
abbrev Bytes := List UInt8

namespace Bytes

open Holdings.Text

/-- The number whose lowest byte comes first. -/
def littleEndian
    (bytes : Bytes) :
    Nat :=
  bytes.foldr (fun byte value => byte.toNat + 256 * value) 0

@[simp]
theorem littleEndian_nil :
    littleEndian [] = 0 :=
  rfl

@[simp]
theorem littleEndian_cons
    (byte : UInt8)
    (bytes : Bytes) :
    littleEndian (byte :: bytes) = byte.toNat + 256 * littleEndian bytes :=
  rfl

/-- The number whose highest byte comes first. -/
def bigEndian
    (bytes : Bytes) :
    Nat :=
  bytes.foldl (fun value byte => 256 * value + byte.toNat) 0

/-- So many bytes of a number, the lowest first. -/
def ofNatLittle
    (value : Nat) :
    Nat → Bytes
  | 0 => []
  | count + 1 => UInt8.ofNat (value % 256) :: ofNatLittle (value / 256) count

@[simp]
theorem length_ofNatLittle
    (value count : Nat) :
    (ofNatLittle value count).length = count := by
  induction count generalizing value with
  | zero => rfl
  | succ count ih => simp [ofNatLittle, ih]

/-- So many bytes of a number, the highest first. -/
def ofNatBig
    (value count : Nat) :
    Bytes :=
  (ofNatLittle value count).reverse

/-- The bytes of a text of ASCII characters. -/
def ofAscii
    (text : String) :
    Bytes :=
  text.toList.map fun character => UInt8.ofNat character.toNat

/-- The bytes that pairs of hexadecimal digits denote. -/
def ofHexDigits? : List Char → Option Bytes
  | [] => some []
  | high :: low :: rest =>
    match asciiHexDigitValue? high, asciiHexDigitValue? low, ofHexDigits? rest with
    | some upper, some lower, some bytes => some (UInt8.ofNat (16 * upper + lower) :: bytes)
    | _, _, _ => none
  | [_] => none

/-- The hexadecimal digits of a byte string. -/
def toHexDigits
    (bytes : Bytes) :
    List Char :=
  bytes.flatMap fun byte => [hexDigit (byte.toNat / 16), hexDigit (byte.toNat % 16)]

end Bytes

end Holdings
