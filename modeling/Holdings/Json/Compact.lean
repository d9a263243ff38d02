import Holdings.Json.Basic
import Holdings.Number.Shortest
import Holdings.Text.Surrogate

/-!
# Compact JSON text

The text of a value without any white space, in ASCII alone: every other
character is written as one or two UTF-16 units.  `sorted` puts the members of
every object in the order of their names, so that two objects which differ in
order alone have one text.
-/

namespace Holdings.Json

open Holdings.Text

/-- One UTF-16 unit as an escape of four hexadecimal digits. -/
def escapeUnit
    (unit : Nat) :
    List Char :=
  '\\' :: 'u' :: [hexDigit (unit / 4096), hexDigit (unit / 256 % 16),
    hexDigit (unit / 16 % 16), hexDigit (unit % 16)]

/-- A code point inside a quoted ASCII text. -/
def escapePoint
    (point : Nat) :
    List Char :=
  if point = 34 then ['\\', '"']
  else if point = 92 then ['\\', '\\']
  else if point = 10 then ['\\', 'n']
  else if point = 13 then ['\\', 'r']
  else if point = 9 then ['\\', 't']
  else if point = 8 then ['\\', 'b']
  else if point = 12 then ['\\', 'f']
  else if 32 ≤ point ∧ point < 127 then [Char.ofNat point]
  else if point < 65536 then escapeUnit point
  else
    escapeUnit (55296 + (point - 65536) / 1024) ++
      escapeUnit (56320 + (point - 65536) % 1024)

/-- A text in quotation marks. -/
def quote
    (text : String) :
    String :=
  "\"" ++ String.ofList ((points text).flatMap escapePoint) ++ "\""

/-- The text of a number of the binary64 format. -/
def doubleText : Double → String
  | .nan => "NaN"
  | .infinite negative => if negative then "-Infinity" else "Infinity"
  | value => value.toText

mutual

/-- The text of a value without white space. -/
def compact : Json → String
  | .null => "null"
  | .bool value => if value then "true" else "false"
  | .int value => toString value
  | .double value => doubleText value
  | .text value => quote value
  | .array items => "[" ++ ",".intercalate (compactItems items) ++ "]"
  | .object members => "\x7b" ++ ",".intercalate (compactMembers members) ++ "\x7d"

/-- The texts of the items of an array. -/
def compactItems : List Json → List String
  | [] => []
  | item :: rest => compact item :: compactItems rest

/-- The texts of the members of an object. -/
def compactMembers : List (String × Json) → List String
  | [] => []
  | (name, value) :: rest => (quote name ++ ":" ++ compact value) :: compactMembers rest

end

mutual

/-- A value with the members of every object in the order of their names. -/
def sorted : Json → Json
  | .array items => .array (sortedItems items)
  | .object members =>
    .object ((sortedMembers members).mergeSort fun left right => inOrder left.1 right.1)
  | value => value

/-- The items of an array, each with its members in order. -/
def sortedItems : List Json → List Json
  | [] => []
  | item :: rest => sorted item :: sortedItems rest

/-- The members of an object in their given order, each value with its own in order. -/
def sortedMembers : List (String × Json) → List (String × Json)
  | [] => []
  | (name, value) :: rest => (name, sorted value) :: sortedMembers rest

end

/-- The one text of a value that does not depend on the order of members. -/
def canonicalText
    (value : Json) :
    String :=
  value.sorted.compact

end Holdings.Json
