import Holdings.Codec.Bytes
import Holdings.Json.Parser

/-!
# Bodies of requests and answers

The body of a request is a string of bytes.  Its encoding is told by the zeros
among its first bytes, since a JSON text starts with characters of ASCII; a byte
order mark of UTF-8 does not count.

The body of an answer is written in UTF-8, in which half of a surrogate pair has
no form, and without numbers that are infinite or undefined.  It is at most 255
values deep.
-/

namespace Holdings.Http

open Holdings.Text

/-- How the characters of a body are written. -/
inductive Encoding where
  | utf8
  | utf16 (highFirst : Bool)
  | utf32 (highFirst : Bool)
deriving DecidableEq, Repr

/-- The encoding of a body. -/
def Encoding.detect : Bytes → Encoding
  | [0, _] => .utf16 true
  | [_, 0] => .utf16 false
  | 0 :: 0 :: _ :: _ :: _ => .utf32 true
  | 0 :: _ :: _ :: _ :: _ => .utf16 true
  | _ :: 0 :: 0 :: 0 :: _ => .utf32 false
  | _ :: 0 :: _ :: _ :: _ => .utf16 false
  | _ => .utf8

/-- The number of some bytes in an order. -/
def readUnitBytes
    (highFirst : Bool)
    (bytes : Bytes) :
    Nat :=
  if highFirst then bytes.bigEndian else bytes.littleEndian

/-- The units of two bytes each, if no byte is left over. -/
def readPairs
    (highFirst : Bool) :
    Bytes → Option (List Nat)
  | [] => some []
  | first :: second :: rest =>
    (readPairs highFirst rest).map (readUnitBytes highFirst [first, second] :: ·)
  | [_] => none

/-- The code points of four bytes each, if no byte is left over and none is too large. -/
def readQuads
    (highFirst : Bool) :
    Bytes → Option (List Nat)
  | [] => some []
  | first :: second :: third :: fourth :: rest =>
    let point := readUnitBytes highFirst [first, second, third, fourth]
    if point < 0x110000 then (readQuads highFirst rest).map (point :: ·) else none
  | _ => none

/-- The text of a body in UTF-8, without a byte order mark. -/
def dropByteOrderMark
    (points : List Nat) :
    List Nat :=
  match points with
  | 0xFEFF :: rest => rest
  | _ => points

/-- The bytes of a body that is given as a text. -/
def bodyBytes
    (body : String) :
    Bytes :=
  (points body).flatMap fun point => String.utf8EncodeChar (Char.ofNat point)

/-- The code points that a body stands for, if its encoding is kept to the end. -/
def bodyPoints
    (body : String) :
    Option (List Nat) :=
  let bytes := bodyBytes body
  match Encoding.detect bytes with
  | .utf8 => some (dropByteOrderMark (points body))
  | .utf16 highFirst => (readPairs highFirst bytes).map joinPairs
  | .utf32 highFirst => readQuads highFirst bytes

/-- Why a body has no value. -/
inductive BodyFault where
  /-- The body is no JSON text. -/
  | malformed
  /-- The body cannot be read at all. -/
  | unreadable
deriving DecidableEq, Repr

/-- The value of a body; an empty body is null. -/
def readBodyValue
    (body : String) :
    Except BodyFault Json :=
  if body = "" then
    .ok .null
  else
    match bodyPoints body with
    | none => .error .unreadable
    | some content =>
      match Json.parseBody (ofPoints content) with
      | .ok value => .ok value
      | .error .malformed => .error .malformed
      | .error .tooManyDigits => .error .unreadable
      | .error .tooDeep => .error .unreadable

mutual

/-- A value with null for every number that is infinite or undefined. -/
def finiteValue : Json → Json
  | .double value => if value.isFinite then .double value else .null
  | .array items => .array (finiteItems items)
  | .object members => .object (finiteMembers members)
  | value => value

/-- The items of an array, each with its numbers finite. -/
def finiteItems : List Json → List Json
  | [] => []
  | item :: rest => finiteValue item :: finiteItems rest

/-- The members of an object, each with its numbers finite. -/
def finiteMembers : List (String × Json) → List (String × Json)
  | [] => []
  | (name, value) :: rest => (name, finiteValue value) :: finiteMembers rest

end

mutual

/-- How many values stand within each other in a value, itself included. -/
def depth : Json → Nat
  | .array items => depthOfItems items + 1
  | .object members => depthOfMembers members + 1
  | _ => 1

/-- The largest depth of the items of an array. -/
def depthOfItems : List Json → Nat
  | [] => 0
  | item :: rest => max (depth item) (depthOfItems rest)

/-- The largest depth of the members of an object. -/
def depthOfMembers : List (String × Json) → Nat
  | [] => 0
  | (_, value) :: rest => max (depth value) (depthOfMembers rest)

end

/-- The largest depth of a value that can be written. -/
def depthLimit : Nat := 255

mutual

/-- Whether a value can be written: its numbers are finite and its texts have no halves. -/
def isWritable : Json → Bool
  | .double value => value.isFinite
  | .text written => !hasHalf written
  | .array items => areWritable items
  | .object members => areMembersWritable members
  | _ => true

/-- Whether every item of an array can be written. -/
def areWritable : List Json → Bool
  | [] => true
  | item :: rest => isWritable item && areWritable rest

/-- Whether every member of an object can be written, its name included. -/
def areMembersWritable : List (String × Json) → Bool
  | [] => true
  | (name, value) :: rest => !hasHalf name && isWritable value && areMembersWritable rest

end

end Holdings.Http
