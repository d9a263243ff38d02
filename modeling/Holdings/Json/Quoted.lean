import Holdings.Json.Basic
import Holdings.Number.Shortest
import Holdings.Text.Charset
import Holdings.Text.Printable

/-!
# Values in messages

A message names the value that was refused.  Inside a message a text stands in
single quotes, or in double quotes when it holds a single quote and no double
one; characters that do not print are escaped; null, truth values and
containers are spelled `None`, `True`, `False`, `[…]` and `{…}`.  `shown` is
the same except that a text alone stands without quotes.

An integer of more than 4300 digits has no text in a message.
-/

namespace Holdings.Json

open Holdings.Text

/-- The number of decimal digits that a printed or read integer may have. -/
def digitLimit : Nat := 4300

/-- Whether an integer is short enough to be printed. -/
def withinDigitLimit
    (value : Int) :
    Bool :=
  value.natAbs < Nat.pow 10 digitLimit

/-- A code point inside a text that stands between two quotes. -/
def quotedPoint
    (mark : Char)
    (point : Nat) :
    List Char :=
  let character := Char.ofNat point
  if character = mark ∨ character = '\\' then ['\\', character]
  else if character = '\n' then ['\\', 'n']
  else if character = '\r' then ['\\', 'r']
  else if character = '\t' then ['\\', 't']
  else if !isHalf point && isPrintable character then holdPoint point
  else numberedPoint point

/-- A text between the quotes that need the fewest escapes. -/
def quotedText
    (text : String) :
    String :=
  let characters := text.toList
  let mark := if characters.contains '\'' && !characters.contains '"' then '"' else '\''
  String.ofList (mark :: (points text).flatMap (quotedPoint mark) ++ [mark])

/-- What stands in front of the members of an object in a message, and behind them. -/
structure ObjectMarks where
  opening : String
  closing : String
deriving DecidableEq, Repr

/-- An object stands in braces. -/
def plainMarks : ObjectMarks := ⟨"\x7b", "\x7d"⟩

/-- An object that the client of a node hands out also says what it is. -/
def recordMarks : ObjectMarks := ⟨"AttributeDict(\x7b", "\x7d)"⟩

mutual

/-- A value as a message names it, with the marks that objects have in it. -/
def quotedIn
    (marks : ObjectMarks) :
    Json → String
  | .null => "None"
  | .bool value => if value then "True" else "False"
  | .int value => toString value
  | .double value => value.toText
  | .text value => quotedText value
  | .array items => "[" ++ ", ".intercalate (quotedItems marks items) ++ "]"
  | .object members =>
    marks.opening ++ ", ".intercalate (quotedMembers marks members) ++ marks.closing

/-- The items of an array as a message names them. -/
def quotedItems
    (marks : ObjectMarks) :
    List Json → List String
  | [] => []
  | item :: rest => quotedIn marks item :: quotedItems marks rest

/-- The members of an object as a message names them. -/
def quotedMembers
    (marks : ObjectMarks) :
    List (String × Json) → List String
  | [] => []
  | (name, value) :: rest =>
    (quotedText name ++ ": " ++ quotedIn marks value) :: quotedMembers marks rest

end

/-- A value as a message names it. -/
def quoted
    (value : Json) :
    String :=
  quotedIn plainMarks value

/-- A value as running text: a text is itself. -/
def shownIn
    (marks : ObjectMarks) :
    Json → String
  | .text value => value
  | value => quotedIn marks value

/-- A value as running text in which objects stand in braces. -/
def shown
    (value : Json) :
    String :=
  shownIn plainMarks value

@[simp]
theorem shown_text
    (value : String) :
    shown (.text value) = value :=
  rfl

mutual

/-- Whether every integer in a value is short enough to be printed. -/
def isShowable : Json → Bool
  | .int value => withinDigitLimit value
  | .array items => areShowable items
  | .object members => areMembersShowable members
  | _ => true

/-- Whether every item of an array can be printed. -/
def areShowable : List Json → Bool
  | [] => true
  | item :: rest => isShowable item && areShowable rest

/-- Whether every member of an object can be printed. -/
def areMembersShowable : List (String × Json) → Bool
  | [] => true
  | (_, value) :: rest => isShowable value && areMembersShowable rest

end

end Holdings.Json
