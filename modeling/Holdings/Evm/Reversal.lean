import Holdings.Evm.Address
import Holdings.Evm.Parameter
import Holdings.Json.Access

/-!
# Reversals

A node that refuses an estimate may say in the data of its error why the
transaction is reversed.  There are three kinds of reasons that are looked into:
a text, behind a word that says so; a panic with a code; and a request to look
something up elsewhere, with its parameters.  The last two are told by the
selector in front of them.

The reason itself is of no account, but data that cannot be read as the kind of
reason that it claims to be is a fault of its own.
-/

namespace Holdings.Evm

open Holdings.Text

/-- The word in front of the text of a reason. -/
def reasonMark : String := "Reverted "

/-- What stands in front of the length of a reason that is written as a parameter. -/
def parameterMark : String :=
  "Reverted 0x08c379a0" ++ String.ofList (List.replicate 62 '0') ++ "20"

/-- The selector of a panic. -/
def panicSelector : String := "0x4e487b71"

/-- The selector of a request to look something up elsewhere. -/
def lookupSelector : String := "0x556f1830"

/-- The number of characters of a selector, its mark included. -/
def selectorLength : Nat := 10

/-- The codes of panics. -/
def panicCodes : List String :=
  ["00", "01", "11", "12", "21", "22", "31", "32", "41", "51"]

/-- The parameters of a request to look something up elsewhere. -/
def lookupParameters : List Parameter :=
  [.address, .listOf .text, .bytes, .fixedBytes 4, .bytes]

/-- The number of hexadecimal digits of a word. -/
def wordDigits : Nat := 2 * wordSize

/-- The items from a position up to another one, which counts from the end when negative. -/
def slice
    {α : Type}
    (items : List α)
    (start : Nat)
    (stop : Int) :
    List α :=
  let bound := if stop < 0 then (stop + items.length).toNat else stop.toNat
  (items.take bound).drop start

/-- The code points of a reason, which should be hexadecimal digits. -/
def reasonPoints
    (data : String) :
    Except Fault (List Nat) :=
  let given := points data
  if data.startsWith parameterMark then
    let start := parameterMark.length + wordDigits
    let written := ofPoints (slice given parameterMark.length start)
    match readHexInteger written with
    | some length => .ok (slice given start (start + 2 * length))
    | none => .error (.notHexadecimal written)
  else if data.startsWith "Reverted 0x" then
    .ok ((given.drop "Reverted 0x".length).takeWhile (· ≠ ' '.toNat))
  else
    .ok given

/-- Whether a code point is a blank of ASCII. -/
def isAsciiBlank
    (point : Nat) :
    Bool :=
  point = 32 || (9 ≤ point && point ≤ 13)

/-- Whether a code point is a hexadecimal digit of ASCII. -/
def isDigitPoint
    (point : Nat) :
    Bool :=
  isHexDigit (Char.ofNat point)

/--
The position of the first code point that is out of place in a string of bytes, given the
position of the front.  Blanks may stand between the bytes, which have two digits each.
-/
def misplacedFrom
    (position : Nat) :
    List Nat → Option Nat
  | [] => none
  | [point] =>
    if isAsciiBlank point then none
    else if isDigitPoint point then some (position + 1)
    else some position
  | high :: low :: rest =>
    if isAsciiBlank high then misplacedFrom (position + 1) (low :: rest)
    else if !isDigitPoint high then some position
    else if !isDigitPoint low then some (position + 1)
    else misplacedFrom (position + 2) rest

/-- The position of what is out of place in a string of bytes; what is not ASCII goes first. -/
def misplaced?
    (given : List Nat) :
    Option Nat :=
  match given.findIdx? (128 ≤ ·) with
  | some position => some position
  | none => misplacedFrom 0 given

/-- Checks the text of a reason. -/
def checkReason
    (data : String) :
    Except Fault Unit := do
  match misplaced? (← reasonPoints data) with
  | some position => throw (.reasonNotHex position)
  | none => return ()

/-- The bytes of the parameters of a lookup, in a text with an even number of digits. -/
def lookupBytes
    (written : String) :
    Except Fault Bytes :=
  let digits := withoutMark written.toList
  let even := if (points written).length % 2 = 0 then digits else '0' :: digits
  if !Charset.ascii.covers (String.ofList even) then
    .error (.unencodable .ascii (String.ofList even))
  else
    match Bytes.ofHexDigits? even with
    | some bytes => .ok bytes
    | none => .error .lookupNotHex

/-- Checks the code of a panic, which is in the last two characters. -/
def checkPanic
    (data : String) :
    Except Fault Unit :=
  let code := dropPoints ((points data).length - 2) data
  if panicCodes.contains code then .ok () else .error (.unknownPanic code)

/-- Checks that the data of a refused estimate can be read as the reason that it claims to be. -/
def checkReversal
    (data : Json) :
    Except Fault Unit := do
  match data with
  | .text written =>
    if written.startsWith reasonMark then
      checkReason written
    else if written.startsWith lookupSelector then
      checkParameters lookupParameters (← lookupBytes (dropPoints selectorLength written))
    else if written.startsWith panicSelector then
      checkPanic written
    else
      return ()
  | _ => return ()

end Holdings.Evm
