import Holdings.Codec.Bytes
import Holdings.Fault
import Holdings.Text.Utf8

/-!
# Parameters of contracts

A contract is called, and answers, with parameters in words of 32 bytes.  A
parameter of fixed size is one word.  One of any size lies behind the words of
all parameters, and its own word points there.  Everything is padded with zeros
to whole words.

Only whether the bytes hold such parameters matters here, and the first reason
why not: all pointers are looked at before any parameter is followed.
-/

namespace Holdings.Evm

/-- What a parameter is. -/
inductive Parameter where
  | address
  /-- So many bytes. -/
  | fixedBytes (width : Nat)
  | bytes
  | text
  | listOf (item : Parameter)
deriving Inhabited, Repr

/-- The number of bytes of a word. -/
def wordSize : Nat := 32

/-- The number of bytes of an address. -/
def addressSize : Nat := 20

/-- Nothing that is held in memory has so many bytes. -/
def sizeBound : Nat := Nat.pow 2 63

/-- Whether a parameter has any size, so that its word points to it. -/
def Parameter.isPointedTo : Parameter → Bool
  | .address => false
  | .fixedBytes _ => false
  | _ => true

/-- The word at a position. -/
def readWord
    (data : Bytes)
    (position : Nat) :
    Except Fault Bytes :=
  let word := (data.drop position).take wordSize
  if word.length = wordSize then .ok word else .error .missingBytes

/-- The number in the word at a position. -/
def readWordNumber
    (data : Bytes)
    (position : Nat) :
    Except Fault Nat := do
  return (← readWord data position).bigEndian

/-- Checks that padding is made of zeros. -/
def checkPadding
    (padding : Bytes) :
    Except Fault Unit :=
  if padding.all (· = 0) then .ok () else .error .dirtyPadding

/-- A length rounded up to whole words. -/
def paddedLength
    (length : Nat) :
    Nat :=
  (length + (wordSize - 1)) / wordSize * wordSize

/-- The bytes at a position, where their length stands in front of them. -/
def readSizedBytes
    (data : Bytes)
    (position : Nat) :
    Except Fault Bytes := do
  let length ← readWordNumber data position
  let whole := paddedLength length
  if sizeBound ≤ whole then
    throw .excessiveLength
  let content := (data.drop (position + wordSize)).take whole
  if content.length < whole then
    throw .missingBytes
  checkPadding (content.drop length)
  return content.take length

/-- Checks that bytes are a text. -/
def checkText
    (content : Bytes) :
    Except Fault Unit :=
  match Text.utf8Defect? content with
  | some defect => .error (.undecodable defect (content.getD defect.position 0))
  | none => .ok ()

/--
Checks a pointer: it counts from the first word of its parameters, and leads behind the
last of them and not behind the last byte.
-/
def checkPointer
    (data : Bytes)
    (first behind position : Nat) :
    Except Fault Unit := do
  let target := first + (← readWordNumber data position)
  if target < behind || data.length ≤ target then throw .badPointer else return ()

/-- Runs a check at so many words, one after the other. -/
def checkWords
    (check : Nat → Except Fault Unit)
    (position : Nat) :
    Nat → Except Fault Unit
  | 0 => .ok ()
  | count + 1 => do
    check position
    checkWords check (position + wordSize) count

/-- Checks a parameter at a position. -/
def Parameter.check
    (data : Bytes) :
    Parameter → Nat → Except Fault Unit
  | .address, position => do
    checkPadding ((← readWord data position).take (wordSize - addressSize))
  | .fixedBytes width, position => do
    checkPadding ((← readWord data position).drop width)
  | .bytes, position => do
    let _ ← readSizedBytes data position
    return ()
  | .text, position => do
    checkText (← readSizedBytes data position)
  | .listOf item, position => do
    let count ← readWordNumber data position
    let first := position + wordSize
    if item.isPointedTo then
      checkWords (checkPointer data first (first + wordSize * count)) first count
      checkWords
        (fun word => do item.check data (first + (← readWordNumber data word)))
        first count
    else
      checkWords (item.check data) first count

/-- Checks the words of some parameters without following a pointer. -/
def checkHeads
    (data : Bytes)
    (behind : Nat) :
    List Parameter → Nat → Except Fault Unit
  | [], _ => .ok ()
  | parameter :: rest, position => do
    if parameter.isPointedTo then
      checkPointer data 0 behind position
    else
      parameter.check data position
    checkHeads data behind rest (position + wordSize)

/-- Checks some parameters, whose words follow each other, and follows their pointers. -/
def checkBodies
    (data : Bytes) :
    List Parameter → Nat → Except Fault Unit
  | [], _ => .ok ()
  | parameter :: rest, position => do
    if parameter.isPointedTo then
      parameter.check data (← readWordNumber data position)
    else
      parameter.check data position
    checkBodies data rest (position + wordSize)

/-- Checks that bytes hold some parameters. -/
def checkParameters
    (parameters : List Parameter)
    (data : Bytes) :
    Except Fault Unit := do
  checkHeads data (wordSize * parameters.length) parameters 0
  checkBodies data parameters 0

end Holdings.Evm
