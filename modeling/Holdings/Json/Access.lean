import Holdings.Fault

/-!
# Looking into values of unknown shape

A received value may have any shape.  Each way of looking into it says which
fault it is when the shape does not fit: only objects are looked up by name,
and only arrays, texts and objects are gone through.
-/

namespace Holdings.Json

/-- The member of an object, or a value that stands for a missing one. -/
def lookupOr
    (value : Json)
    (name : String)
    (missing : Json) :
    Except Fault Json :=
  match value with
  | .object members => .ok ((find? members name).getD missing)
  | _ => .error .noMembers

/-- The member of an object; null stands for a missing one. -/
def lookup
    (value : Json)
    (name : String) :
    Except Fault Json :=
  value.lookupOr name .null

@[simp]
theorem lookup_object
    (members : List (String × Json))
    (name : String) :
    lookup (.object members) name = .ok ((find? members name).getD .null) :=
  rfl

/-- The member of an object that has it. -/
def member
    (value : Json)
    (name : String) :
    Except Fault Json :=
  match value with
  | .object members =>
    match find? members name with
    | some held => .ok held
    | none => .error .missingMember
  | _ => .error .wrongShape

/-- The first item of an array, or the first character of a text. -/
def firstItem : Json → Except Fault Json
  | .array (first :: _) => .ok first
  | .array [] => .error .missingItem
  | .text written =>
    match Text.points written with
    | first :: _ => .ok (.text (Text.ofPoints [first]))
    | [] => .error .missingItem
  | .object _ => .error .missingMember
  | _ => .error .wrongShape

/-- What a value is gone through by: items, characters or names of members. -/
def elements : Json → Except Fault (List Json)
  | .array items => .ok items
  | .text written => .ok ((Text.points written).map fun point => .text (Text.ofPoints [point]))
  | .object members => .ok (members.map fun held => .text held.1)
  | _ => .error .wrongShape

/-- The text of a value, if its integers are short enough to be printed. -/
def printIn
    (marks : ObjectMarks)
    (value : Json) :
    Except Fault String :=
  if value.isShowable then .ok (value.shownIn marks) else .error .digitLimit

/-- The text of a value in which objects stand in braces, if it can be printed. -/
def print
    (value : Json) :
    Except Fault String :=
  value.printIn plainMarks

@[simp]
theorem print_text
    (written : String) :
    print (.text written) = .ok written :=
  rfl

end Holdings.Json
