/-!
# Reading UTF-8 with replacement

Bytes that are no UTF-8 become U+FFFD: one for each longest start of a
character that is not completed, and one for each byte that starts nothing.
Where nothing may be replaced, the first of these places is the defect that is
told of.
-/

namespace Holdings.Text

/-- The bounds of a byte that continues a character, both included. -/
structure ByteBounds where
  low : Nat
  high : Nat
deriving DecidableEq, Repr

/-- Whether a byte lies within the bounds. -/
def ByteBounds.hold
    (bounds : ByteBounds)
    (byte : UInt8) :
    Bool :=
  bounds.low ≤ byte.toNat && byte.toNat ≤ bounds.high

/-- The bounds of an ordinary continuation byte. -/
def tailBounds : ByteBounds := ⟨0x80, 0xBF⟩

/-- The bits of a character that has begun, and the bytes that it still needs. -/
structure OpenChar where
  bits : Nat
  needed : List ByteBounds
deriving DecidableEq, Repr

/-- What a byte between two characters is. -/
inductive LeadByte where
  | whole (character : Char)
  | opens (begun : OpenChar)
  | invalid

/-- Reads a byte between two characters. -/
def readLead
    (byte : UInt8) :
    LeadByte :=
  let value := byte.toNat
  if value < 0x80 then .whole (Char.ofNat value)
  else if value < 0xC2 then .invalid
  else if value < 0xE0 then .opens ⟨value - 0xC0, [tailBounds]⟩
  else if value = 0xE0 then .opens ⟨0, [⟨0xA0, 0xBF⟩, tailBounds]⟩
  else if value = 0xED then .opens ⟨0xD, [⟨0x80, 0x9F⟩, tailBounds]⟩
  else if value < 0xF0 then .opens ⟨value - 0xE0, [tailBounds, tailBounds]⟩
  else if value = 0xF0 then .opens ⟨0, [⟨0x90, 0xBF⟩, tailBounds, tailBounds]⟩
  else if value < 0xF4 then .opens ⟨value - 0xF0, [tailBounds, tailBounds, tailBounds]⟩
  else if value = 0xF4 then .opens ⟨4, [⟨0x80, 0x8F⟩, tailBounds, tailBounds]⟩
  else .invalid

/-- The character that stands for bytes that are no UTF-8. -/
def replacement : Char := '\uFFFD'

/-- Reads bytes, given the character that has begun, if one has. -/
def decodeFrom
    (begun : Option OpenChar) :
    List UInt8 → List Char
  | [] => if begun.isSome then [replacement] else []
  | byte :: rest =>
    let fresh :=
      match readLead byte with
      | .whole character => character :: decodeFrom none rest
      | .opens started => decodeFrom (some started) rest
      | .invalid => replacement :: decodeFrom none rest
    match begun with
    | none => fresh
    | some ⟨bits, []⟩ => Char.ofNat bits :: fresh
    | some ⟨bits, bounds :: needed⟩ =>
      if bounds.hold byte then
        let more := bits * 64 + (byte.toNat - 0x80)
        if needed.isEmpty then
          Char.ofNat more :: decodeFrom none rest
        else
          decodeFrom (some ⟨more, needed⟩) rest
      else
        replacement :: fresh

/-- Reads bytes as UTF-8; what is no UTF-8 is replaced. -/
def decodeUtf8
    (bytes : List UInt8) :
    List Char :=
  decodeFrom none bytes

/-- How bytes fail to be UTF-8. -/
inductive Utf8Flaw where
  /-- A byte that starts no character. -/
  | badStart
  /-- A byte that does not continue the character that has begun. -/
  | badTail
  /-- The bytes end within a character. -/
  | cutOff
deriving DecidableEq, Repr, Inhabited

/-- The first place at which bytes are no UTF-8: where a character begins and how far it goes. -/
structure Utf8Defect where
  position : Nat
  length : Nat
  flaw : Utf8Flaw
deriving DecidableEq, Repr, Inhabited

/--
The first defect of bytes behind a position, given what the character that has begun there
still needs and how many bytes of it have been read.
-/
def defectFrom
    (position length : Nat)
    (needed : List ByteBounds) :
    List UInt8 → Option Utf8Defect
  | [] => if needed.isEmpty then none else some ⟨position, length, .cutOff⟩
  | byte :: rest =>
    match needed with
    | [] =>
      match readLead byte with
      | .whole _ => defectFrom (position + 1) 0 [] rest
      | .opens started => defectFrom position 1 started.needed rest
      | .invalid => some ⟨position, 1, .badStart⟩
    | bounds :: later =>
      if !bounds.hold byte then some ⟨position, length, .badTail⟩
      else if later.isEmpty then defectFrom (position + length + 1) 0 [] rest
      else defectFrom position (length + 1) later rest

/-- The first place at which bytes are no UTF-8. -/
def utf8Defect?
    (bytes : List UInt8) :
    Option Utf8Defect :=
  defectFrom 0 0 [] bytes

@[simp]
theorem decodeUtf8_nil :
    decodeUtf8 [] = [] :=
  rfl

@[simp]
theorem utf8Defect?_nil :
    utf8Defect? [] = none :=
  rfl

end Holdings.Text
