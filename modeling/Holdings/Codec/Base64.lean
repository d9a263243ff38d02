import Holdings.Codec.Bytes
import Holdings.Fault

/-!
# Base 64

Four digits of six bits make three bytes.  Characters outside the alphabet are
skipped, padding ends the data when it completes a group of four, and a group
that is left open is a fault.  Text beyond ASCII is refused.
-/

namespace Holdings.Base64

/-- The digits, by value. -/
def alphabet : List Char :=
  "ABCDEFGHIJKLMNOPQRSTUVWXYZabcdefghijklmnopqrstuvwxyz0123456789+/".toList

/-- The value of a digit. -/
def digitValue?
    (character : Char) :
    Option Nat :=
  if 'A' ≤ character ∧ character ≤ 'Z' then
    some (character.toNat - 'A'.toNat)
  else if 'a' ≤ character ∧ character ≤ 'z' then
    some (character.toNat - 'a'.toNat + 26)
  else if '0' ≤ character ∧ character ≤ '9' then
    some (character.toNat - '0'.toNat + 52)
  else if character = '+' then
    some 62
  else if character = '/' then
    some 63
  else
    none

/-- Where a reader stands inside a group of four digits: how many came, the bits left over. -/
structure Progress where
  digits : Nat
  left : Nat
  padding : Nat
deriving DecidableEq, Repr

/-- A reader between two groups. -/
def Progress.start : Progress := ⟨0, 0, 0⟩

/-- The bytes of the digits from a place inside a group on. -/
def decodeFrom
    (progress : Progress) :
    List Char → Except Fault Bytes
  | [] => if progress.digits = 0 then .ok [] else .error .base64Padding
  | character :: rest =>
    if character = '=' then
      if progress.digits < 2 then
        decodeFrom progress rest
      else if 4 ≤ progress.digits + progress.padding + 1 then
        .ok []
      else
        decodeFrom { progress with padding := progress.padding + 1 } rest
    else
      match digitValue? character with
      | none => decodeFrom progress rest
      | some value =>
        match progress.digits with
        | 0 => decodeFrom ⟨1, value, 0⟩ rest
        | 1 =>
          (decodeFrom ⟨2, value % 16, 0⟩ rest).map
            (UInt8.ofNat (4 * progress.left + value / 16) :: ·)
        | 2 =>
          (decodeFrom ⟨3, value % 4, 0⟩ rest).map
            (UInt8.ofNat (16 * progress.left + value / 4) :: ·)
        | _ =>
          (decodeFrom .start rest).map (UInt8.ofNat (64 * progress.left + value) :: ·)

/-- The bytes that a text denotes. -/
def decode
    (text : String) :
    Except Fault Bytes :=
  if text.toList.all fun character => character.toNat < 128 then
    decodeFrom .start text.toList
  else
    .error .base64NotAscii

end Holdings.Base64
