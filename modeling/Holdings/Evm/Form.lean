import Holdings.Codec.Bytes
import Holdings.Evm.Address
import Holdings.Json.Access
import Holdings.Number.Numeral

/-!
# Forms of the members of a node's answer

A node answers with objects whose members stand for quantities, strings of
bytes, addresses and lists of these.  Such an object is taken only if every
member that is known has its form; other members may be anything.  A form is
lenient: a quantity may be any value but a text that is no numeral, and bytes
may be padded with zeros in front.

Objects come in two kinds.  Those of the answer itself are marked, and one that
is made of a list of pairs is plain until the object around it is done.  A
marked object with a member `items` or `keys` cannot be gone through again,
which happens to everything within an object when the object is done.
-/

namespace Holdings.Evm

/-- A quantity, read as an integer when it is a text. -/
def readQuantity
    (value : Json) :
    Except Fault Json :=
  match value with
  | .text written =>
    match Text.readHexInteger written with
    | some quantity => .ok (.int quantity)
    | none => .error (.notHexadecimal written)
  | _ => .ok value

/-- The form that a member of an answer has to have. -/
inductive Form where
  | quantity
  /-- A floating-point number, also as a text. -/
  | real
  /-- Bytes, as many as there are. -/
  | data
  /-- So many bytes, apart from zeros in front; there may be fewer only where it is said. -/
  | bytes (width : Nat) (mayBeShorter : Bool)
  /-- The place of a word of storage. -/
  | place
  | address
  | nullable (form : Form)
  /-- A list, or something that is taken for one and keeps its kind. -/
  | each (form : Form)
  /-- A list, or something that a list is made of. -/
  | listOf (form : Form)
  /-- A list of objects of one form, or a list of texts of another. -/
  | listOfEither (whole named : Form)
  | record (members : List (String × Form))
deriving Inhabited

/-- What is made of a value that has its form. -/
inductive Formed where
  /-- A value without parts, or a text. -/
  | leaf (value : Json)
  | list (items : List Formed)
  /-- An object, whose names need not be texts. -/
  | object (isMarked : Bool) (members : List (Json × Formed))
deriving Inhabited

namespace Formed

mutual

/-- A value of an answer as it is given. -/
def ofJson : Json → Formed
  | .array items => .list (ofItems items)
  | .object members => .object true (ofMembers members)
  | value => .leaf value

/-- The items of an array as they are given. -/
def ofItems : List Json → List Formed
  | [] => []
  | item :: rest => ofJson item :: ofItems rest

/-- The members of an object as they are given. -/
def ofMembers : List (String × Json) → List (Json × Formed)
  | [] => []
  | (name, value) :: rest => (.text name, ofJson value) :: ofMembers rest

end

mutual

/-- A formed value as a value; a name that is no text goes by what it prints as. -/
def toJson : Formed → Json
  | .leaf value => value
  | .list items => .array (toItems items)
  | .object _ members => .object (toMembers members)

/-- Formed items as values. -/
def toItems : List Formed → List Json
  | [] => []
  | item :: rest => item.toJson :: toItems rest

/-- Formed members as members. -/
def toMembers : List (Json × Formed) → List (String × Json)
  | [] => []
  | (name, value) :: rest => (name.shown, value.toJson) :: toMembers rest

end

mutual

/-- A formed value in which every object is marked. -/
def marked : Formed → Formed
  | .leaf value => .leaf value
  | .list items => .list (markedItems items)
  | .object _ members => .object true (markedMembers members)

/-- Formed items in which every object is marked. -/
def markedItems : List Formed → List Formed
  | [] => []
  | item :: rest => item.marked :: markedItems rest

/-- Formed members in which every object is marked. -/
def markedMembers : List (Json × Formed) → List (Json × Formed)
  | [] => []
  | (name, value) :: rest => (name, value.marked) :: markedMembers rest

end

/-- The value under a name. -/
def find?
    (members : List (Json × Formed))
    (name : String) :
    Option Formed :=
  members.lookup (.text name)

/-- Whether an object that is marked can be gone through again. -/
def isPassable
    (members : List (Json × Formed)) :
    Bool :=
  (find? members "items").isNone && (find? members "keys").isNone

mutual

/-- Whether a formed value can be gone through again. -/
def isOpen : Formed → Bool
  | .leaf _ => true
  | .list items => areOpen items
  | .object isMarked members => (!isMarked || isPassable members) && areMembersOpen members

/-- Whether every formed item can be gone through again. -/
def areOpen : List Formed → Bool
  | [] => true
  | item :: rest => item.isOpen && areOpen rest

/-- Whether every formed member can be gone through again. -/
def areMembersOpen : List (Json × Formed) → Bool
  | [] => true
  | (_, value) :: rest => value.isOpen && areMembersOpen rest

end

/-- How many parts a formed value has, if it can be taken apart. -/
def parts? : Formed → Option Nat
  | .leaf (.text written) => some (Text.points written).length
  | .leaf _ => none
  | .list items => some items.length
  | .object _ members => some members.length

/-- A string of bytes. -/
def ofBytes
    (bytes : Bytes) :
    Formed :=
  .list (bytes.map fun byte => .leaf (.int byte.toNat))

/-- What a text comes to that is taken for a list: it is not looked into. -/
def unread : Formed := .leaf (.text "")

end Formed

/-- The bytes that a hexadecimal text stands for, with its mark or without. -/
def bytesOfText?
    (text : String) :
    Option Bytes :=
  let digits := withoutMark text.toList
  Bytes.ofHexDigits? (if digits.length % 2 = 0 then digits else '0' :: digits)

/-- The bytes that a value stands for. -/
def bytesOf : Json → Except Fault Bytes
  | .text written =>
    match bytesOfText? written with
    | some bytes => .ok bytes
    | none => .error .malformedMember
  | .bool value => .ok [if value then 1 else 0]
  | .int value =>
    if value < 0 then
      .error .malformedMember
    else
      match bytesOfText? (Text.hexText value.toNat) with
      | some bytes => .ok bytes
      | none => .error .malformedMember
  | _ => .error .wrongShape

/-- Cuts bytes to a width, where only zeros may go. -/
def fitBytes
    (width : Nat)
    (mayBeShorter : Bool)
    (bytes : Bytes) :
    Except Fault Bytes :=
  let size := bytes.length
  if size = width || (mayBeShorter && size < width) then
    .ok bytes
  else
    let cut := if width < size then size - width else 2 * size - width
    if (bytes.take cut).all (· = 0) then .ok (bytes.drop cut) else .error .malformedMember

/-- The number of characters of a place of storage without its mark. -/
def placeLength : Nat := 64

/-- The text of a place of storage, whose length alone counts. -/
def readPlaceText
    (written : String) :
    Except Fault Formed :=
  let length := (Text.points written).length
  if written.startsWith "0x" && length = placeLength + 2 then .ok (.leaf (.text written))
  else if length = placeLength then .ok (.leaf (.text ("0x" ++ written)))
  else .error .malformedMember

/-- A place of storage, which may also be given as an integer. -/
def readPlace : Json → Except Fault Formed
  | .text written => readPlaceText written
  | .int value => readPlaceText (signedHexText value)
  | _ => .error .malformedMember

/-- An address, which may be given in any way that has a checked form. -/
def readAddress
    (value : Json) :
    Except Fault Formed :=
  match checkedAddress value with
  | .ok address => .ok (.leaf (.text address))
  | .error .wrongShape => .error .wrongShape
  | .error _ => .error .malformedMember

/-- A floating-point number. -/
def readReal
    (value : Json) :
    Except Fault Formed :=
  match value with
  | .bool _ => .ok (.leaf value)
  | .double _ => .ok (.leaf value)
  | .int number =>
    if (Double.ofInt number).isFinite then .ok (.leaf value) else .error .infiniteInteger
  | .text written =>
    if Numeral.denotesReal written then .ok (.leaf value) else .error .malformedMember
  | _ => .error .wrongShape

mutual

/-- Whether a value of an answer can be the name of a member: no list, and passable objects. -/
def isNameLike : Json → Bool
  | .array _ => false
  | .object members => (Json.find? members "items").isNone && haveNameParts members
  | _ => true

/-- Whether the values of an object can be parts of a name; a list can, unlike alone. -/
def haveNameParts : List (String × Json) → Bool
  | [] => true
  | (_, value) :: rest => isNamePart value && haveNameParts rest

/-- Whether a value can be part of a name. -/
def isNamePart : Json → Bool
  | .array items => areNameParts items
  | .object members => (Json.find? members "items").isNone && haveNameParts members
  | _ => true

/-- Whether every item of a list can be part of a name. -/
def areNameParts : List Json → Bool
  | [] => true
  | item :: rest => isNamePart item && areNameParts rest

end

/-- The member that an item of a list stands for, which has to fall into two parts. -/
def memberOfItem
    (item : Json) :
    Except Fault (Json × Json) := do
  match ← item.elements with
  | [name, value] => if isNameLike name then return (name, value) else throw .wrongShape
  | _ => throw .malformedMember

/--
The members of an object, or of a list of pairs in place of one.  An object that has a
member `keys` cannot be gone through.
-/
def membersOf : Json → Except Fault (List (Json × Json))
  | .object members =>
    if (Json.find? members "keys").isSome then
      .error .wrongShape
    else
      .ok (members.map fun held => (.text held.1, held.2))
  | .array items => items.mapM memberOfItem
  | .text written => if written = "" then .ok [] else .error .malformedMember
  | _ => .error .wrongShape

/-- Whether a value is an object. -/
def isObject : Json → Bool
  | .object _ => true
  | _ => false

/-- Whether a value is a text. -/
def isText : Json → Bool
  | .text _ => true
  | _ => false

/-- The last of the values under each name, in the order in which the names first came. -/
def lastOfEach
    (members : List (Json × Json)) :
    List (Json × Json) :=
  members.foldl
    (fun known member =>
      if known.any (·.1 == member.1) then
        known.map fun held => if held.1 == member.1 then member else held
      else
        known ++ [member])
    []

/-- Reads the names of an object that is taken for a list: each has to fall into two parts. -/
def readNames
    (read : Json → Except Fault Formed) :
    List (String × Json) → Except Fault Unit
  | [] => .ok ()
  | (name, _) :: rest => do
    match (← read (.text name)).parts? with
    | some 2 => readNames read rest
    | some _ => throw .malformedMember
    | none => throw .wrongShape

/-- Reads a list, or what is taken for one: a text and a truth value are not looked into. -/
def readEach
    (read : Json → Except Fault Formed) :
    Json → Except Fault Formed
  | .array items => do
    return .list (← items.mapM read)
  | .object members => do
    readNames read members
    return .object true []
  | .text _ => .ok Formed.unread
  | .bool value => .ok (.leaf (.bool value))
  | _ => .error .wrongShape

/-- Reads what a list is made of, which a truth value is not. -/
def readList
    (read : Json → Except Fault Formed)
    (value : Json) :
    Except Fault Formed := do
  match ← readEach read value with
  | .leaf (.bool _) => throw .wrongShape
  | formed => return formed

/-- Reads members in their order, each by the reader under its name, if there is one. -/
def readMembers
    (readers : List (String × (Json → Except Fault Formed))) :
    List (Json × Json) → Except Fault (List (Json × Formed))
  | [] => .ok []
  | (name, value) :: rest => do
    let reader :=
      match name with
      | .text written => readers.lookup written
      | _ => none
    let formed ← match reader with
      | some read => read value
      | none => pure (.ofJson value)
    return (name, formed) :: (← readMembers readers rest)

/-- Reads a record; everything in a record that is an object is gone through again. -/
def readRecord
    (readers : List (String × (Json → Except Fault Formed)))
    (value : Json) :
    Except Fault Formed := do
  let members ← readMembers readers (lastOfEach (← membersOf value))
  if !isObject value then return .object false members
  else if Formed.areMembersOpen members then return .object true (Formed.markedMembers members)
  else throw .wrongShape

mutual

/-- Reads a value that has to have a form. -/
def Form.read : Form → Json → Except Fault Formed
  | .quantity, .text written =>
    match Text.readHexInteger written with
    | some quantity => .ok (.leaf (.int quantity))
    | none => .error .malformedMember
  | .quantity, value => .ok (.ofJson value)
  | .real, value => readReal value
  | .data, value => do
    return .ofBytes (← bytesOf value)
  | .bytes width mayBeShorter, value => do
    return .ofBytes (← fitBytes width mayBeShorter (← bytesOf value))
  | .place, value => readPlace value
  | .address, value => readAddress value
  | .nullable _, .null => .ok (.leaf .null)
  | .nullable form, value => form.read value
  | .each form, value => readEach form.read value
  | .listOf form, value => readList form.read value
  | .listOfEither whole named, .array items =>
    if items.all isObject then readList whole.read (.array items)
    else if items.all isText then readList named.read (.array items)
    else .error .malformedMember
  | .listOfEither _ _, _ => .error .malformedMember
  | .record members, value => readRecord (memberReaders members) value

/-- The readers of the members of a record, by name. -/
def memberReaders :
    List (String × Form) → List (String × (Json → Except Fault Formed))
  | [] => []
  | (name, form) :: rest => (name, form.read) :: memberReaders rest

end

end Holdings.Evm
