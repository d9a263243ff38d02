import Holdings.Number.Double

/-!
# JSON values

Answers of the network, request bodies and parameters are JSON values.  Integers are
exact and of any size, every other number is a binary64 number, and an object
keeps its members in the order in which their names first came.
-/

namespace Holdings

/-- A JSON value. -/
inductive Json where
  | null
  | bool (value : Bool)
  | int (value : Int)
  | double (value : Double)
  | text (value : String)
  | array (items : List Json)
  | object (members : List (String × Json))
deriving Inhabited, Repr

namespace Json

mutual

/-- Whether two values are the same. -/
def isSame : Json → Json → Bool
  | .null, .null => true
  | .bool left, .bool right => left == right
  | .int left, .int right => left == right
  | .double left, .double right => left == right
  | .text left, .text right => left == right
  | .array left, .array right => areSame left right
  | .object left, .object right => areMembersSame left right
  | _, _ => false

/-- Whether two arrays hold the same items. -/
def areSame : List Json → List Json → Bool
  | [], [] => true
  | left :: lefts, right :: rights => isSame left right && areSame lefts rights
  | _, _ => false

/-- Whether two objects hold the same members in the same order. -/
def areMembersSame : List (String × Json) → List (String × Json) → Bool
  | [], [] => true
  | (name, left) :: lefts, (other, right) :: rights =>
    name == other && isSame left right && areMembersSame lefts rights
  | _, _ => false

end

instance : BEq Json := ⟨isSame⟩

/-- The object without members. -/
def empty : Json := .object []

/-- The value of the first member with a name. -/
def find?
    (members : List (String × Json))
    (name : String) :
    Option Json :=
  members.lookup name

@[simp]
theorem find?_nil
    (name : String) :
    find? [] name = none :=
  rfl

/-- Gives a member a value: in its place when the name is there, else at the end. -/
def setMember
    (members : List (String × Json))
    (name : String)
    (value : Json) :
    List (String × Json) :=
  match members with
  | [] => [(name, value)]
  | (other, held) :: rest =>
    if other = name then
      (name, value) :: rest
    else
      (other, held) :: setMember rest name value

@[simp]
theorem setMember_nil
    (name : String)
    (value : Json) :
    setMember [] name value = [(name, value)] :=
  rfl

/-- The object of a list of members, where the last of several with one name counts. -/
def ofMembers
    (members : List (String × Json)) :
    Json :=
  .object (members.foldl (fun known member => setMember known member.1 member.2) [])

/-- The member of an object, if the value is an object that has it. -/
def get? : Json → String → Option Json
  | .object members, name => find? members name
  | _, _ => none

/-- The member of an object; null stands for a missing one. -/
def getD
    (value : Json)
    (name : String) :
    Json :=
  (value.get? name).getD .null

/-- The text of an optional text; null stands for none. -/
def ofText? : Option String → Json
  | some written => .text written
  | none => .null

/-- Whether a value is null. -/
def isNull : Json → Bool
  | .null => true
  | _ => false

/-- Null, false, zero and everything empty count as absent; the rest is present. -/
def isPresent : Json → Bool
  | .null => false
  | .bool value => value
  | .int value => value ≠ 0
  | .double value => !value.isZero
  | .text value => value ≠ ""
  | .array items => !items.isEmpty
  | .object members => !members.isEmpty

/-- A value, or another one when it counts as absent. -/
def orElse
    (value fallback : Json) :
    Json :=
  if value.isPresent then value else fallback

@[simp]
theorem orElse_null
    (fallback : Json) :
    orElse .null fallback = fallback :=
  rfl

/-- A value, or the empty object when it counts as absent. -/
def orEmpty
    (value : Json) :
    Json :=
  value.orElse empty

/-- How many arrays and objects within each other are read and written at most. -/
def nestingLimit : Nat := 1000

end Json

end Holdings
