import Holdings.Fault
import Holdings.Text.LooseInteger

/-!
# Shapes of public values

A public value has a shape.  A value is accepted by a shape when it has it or
can be read as having it: an integer may be written as a text, a truth value as
one of the usual words.  A record is a list of fields, each with the label that
it has outside and a name that is also understood; unknown members are ignored.
-/

namespace Holdings.Schema

open Holdings.Text

/-- A field of a record. -/
structure Field where
  /-- The name that is understood beside the label. -/
  name : String
  /-- The label of the field outside. -/
  label : String
  /-- The value of a field that is not given, if it may be left out. -/
  fallback : Option Json
deriving Inhabited, BEq, Repr

/-- What values a field takes. -/
inductive Shape where
  | text
  /-- A text, where everything that counts as absent is the empty text. -/
  | textOrEmpty
  /-- An integer, not below a bound if there is one. -/
  | integer (least : Option Int)
  | flag
  | integerOrText
  /-- One of some words. -/
  | oneOf (words : List String)
  | anyList
  | optional (inner : Shape)
  | listOf (inner : Shape)
  /-- An object in which each name is one of some words and each value has a shape. -/
  | table (words : List String) (inner : Shape)
  | record (fields : List (Field × Shape))
deriving Inhabited

/-- An accepted value: plain, or built of the accepted fields of a record. -/
inductive Accepted where
  | plain (value : Json)
  | list (items : List Accepted)
  | table (entries : List (String × Accepted))
  | record (entries : List (Field × Accepted))
deriving Inhabited

/-- The bound of whole floating-point numbers that are read as integers. -/
def wholeLimit : Nat := Nat.pow 2 63

/-- The integer that a value can be read as. -/
def readInteger? : Json → Option Int
  | .int value => some value
  | .bool value => some (if value then 1 else 0)
  | .double value =>
    match value.toInt? with
    | some whole => if whole.natAbs < wholeLimit then some whole else none
    | none => none
  | .text written => readLooseInteger written
  | _ => none

/-- The truth value that a word stands for, in any case. -/
def readWordFlag?
    (word : String) :
    Option Bool :=
  let lowered := String.ofList (word.toList.map Char.toLower)
  if ["1", "t", "true", "y", "yes", "on"].contains lowered then
    some true
  else if ["0", "f", "false", "n", "no", "off"].contains lowered then
    some false
  else
    none

/-- The truth value that a value can be read as. -/
def readFlag? : Json → Option Bool
  | .bool value => some value
  | .int 0 => some false
  | .int 1 => some true
  | .double value =>
    match value.toInt? with
    | some 0 => some false
    | some 1 => some true
    | _ => none
  | .text written => readWordFlag? written
  | _ => none

/-- The value of a field among the members of an object; the label goes before the name. -/
def given?
    (members : List (String × Json))
    (field : Field) :
    Option Json :=
  match Json.find? members field.label with
  | some value => some value
  | none => Json.find? members field.name

/-- All values of a list, if each one is there. -/
def allSome
    {α : Type} :
    List (Option α) → Option (List α)
  | [] => some []
  | some value :: rest => (allSome rest).map (value :: ·)
  | none :: _ => none

mutual

/-- The value as the shape takes it, if it does. -/
def Shape.accept? : Shape → Json → Option Accepted
  | .text, .text written => some (.plain (.text written))
  | .text, _ => none
  | .textOrEmpty, value =>
    match value.orElse (.text "") with
    | .text written => some (.plain (.text written))
    | _ => none
  | .integer least, value =>
    match readInteger? value with
    | some number =>
      if least.all (· ≤ number) then some (.plain (.int number)) else none
    | none => none
  | .flag, value => (readFlag? value).map fun flag => .plain (.bool flag)
  | .integerOrText, .text written => some (.plain (.text written))
  | .integerOrText, value => (readInteger? value).map fun number => .plain (.int number)
  | .oneOf words, .text written =>
    if words.contains written then some (.plain (.text written)) else none
  | .oneOf _, _ => none
  | .anyList, .array items => some (.plain (.array items))
  | .anyList, _ => none
  | .optional _, .null => some (.plain .null)
  | .optional inner, value => inner.accept? value
  | .listOf inner, .array items => (allSome (items.map inner.accept?)).map .list
  | .listOf _, _ => none
  | .table words inner, .object members =>
    (allSome (members.map fun (name, value) =>
      if words.contains name then (inner.accept? value).map ((name, ·)) else none)).map .table
  | .table _ _, _ => none
  | .record fields, .object members =>
    (allSome (acceptEach fields members)).map .record
  | .record _, _ => none

/-- The fields of a record as they are taken from the members of an object. -/
def acceptEach :
    List (Field × Shape) → List (String × Json) → List (Option (Field × Accepted))
  | [], _ => []
  | (field, shape) :: rest, members =>
    (match given? members field with
      | some value => (shape.accept? value).map fun accepted => (field, accepted)
      | none => field.fallback.map fun value => (field, .plain value)) ::
      acceptEach rest members

end

mutual

/-- The public value of what was accepted, with or without the fields that are null. -/
def Accepted.toJson
    (keepNulls : Bool) :
    Accepted → Json
  | .plain value => value
  | .list items => .array (listToJson keepNulls items)
  | .table entries => .object (tableToJson keepNulls entries)
  | .record entries => .object (entriesToJson keepNulls entries)

/-- The public values of the items of a list. -/
def listToJson
    (keepNulls : Bool) :
    List Accepted → List Json
  | [] => []
  | item :: rest => item.toJson keepNulls :: listToJson keepNulls rest

/-- The public values of the members of a table. -/
def tableToJson
    (keepNulls : Bool) :
    List (String × Accepted) → List (String × Json)
  | [] => []
  | (name, accepted) :: rest =>
    (name, accepted.toJson keepNulls) :: tableToJson keepNulls rest

/-- The public values of the fields of a record. -/
def entriesToJson
    (keepNulls : Bool) :
    List (Field × Accepted) → List (String × Json)
  | [] => []
  | (field, accepted) :: rest =>
    let value := accepted.toJson keepNulls
    if !keepNulls && value.isNull then
      entriesToJson keepNulls rest
    else
      (field.label, value) :: entriesToJson keepNulls rest

end

/-- A record with a name, whose fields may be fixed once it is made. -/
structure Model where
  name : String
  fields : List (Field × Shape)
  isFrozen : Bool
deriving Inhabited

/-- A value of a model. -/
structure Record where
  model : Model
  entries : List (Field × Accepted)
deriving Inhabited

/-- The labels of the fields that are not accepted. -/
def refusedLabels :
    List (Field × Shape) → List (Option (Field × Accepted)) → List String
  | (field, _) :: fields, none :: outcomes => field.label :: refusedLabels fields outcomes
  | _ :: fields, some _ :: outcomes => refusedLabels fields outcomes
  | _, _ => []

/-- The value of a model that a value gives, or the labels of the fields that it gets wrong. -/
def Model.validate
    (model : Model)
    (value : Json) :
    Except Fault Record :=
  match value with
  | .object members =>
    let outcomes := acceptEach model.fields members
    match allSome outcomes with
    | some entries => .ok { model, entries }
    | none =>
      .error (.invalidModel model.name
        ((refusedLabels model.fields outcomes).mergeSort fun left right =>
          decide (left ≤ right)))
  | _ => .error (.invalidModel model.name [""])

/-- The values that are to blame for the fields that are not accepted. -/
def refusedValues
    (whole : Json)
    (members : List (String × Json)) :
    List (Field × Shape) → List (Option (Field × Accepted)) → List Json
  | (field, _) :: fields, none :: outcomes =>
    (given? members field).getD whole :: refusedValues whole members fields outcomes
  | _ :: fields, some _ :: outcomes => refusedValues whole members fields outcomes
  | _, _ => []

/--
The values that are to blame when a value is not taken by a model: those of the fields
that are wrong, and the whole value when a field is missing or there are no fields.
-/
def Model.blamed
    (model : Model)
    (value : Json) :
    List Json :=
  match value with
  | .object members =>
    refusedValues value members model.fields (acceptEach model.fields members)
  | _ => [value]

/-- Replaces all fields at once; a field that the members leave out is gone. -/
def Record.replaceFields
    (record : Record)
    (value : Json) :
    Except Fault Record :=
  match value with
  | .object members =>
    .ok { record with
      entries := record.entries.filterMap fun entry =>
        (Json.find? members entry.1.name).map fun held => (entry.1, .plain held) }
  | _ => .error .wrongShape

/-- Names of what a record tells about itself. -/
def computedNames : List String := ["model_fields_set", "model_extra"]

/-- Names with an underscore in front that belong to every record and stay as they are. -/
def fixedNames : List String := ["__fields_set__", "__weakref__"]

/--
Replaces what stands under a name without looking at the value: a field, or all fields.
Some names stay as they are, or are needed as they are by the host; any other name with
an underscore in front is taken and told nowhere.
-/
def Record.assign
    (record : Record)
    (hostNames : List String)
    (name : String)
    (value : Json) :
    Except Fault Record :=
  if name.startsWith "_" then
    if name = "__class__" then .error .wrongShape
    else if name = "__dict__" then record.replaceFields value
    else if fixedNames.contains name || hostNames.contains name then .error .noMembers
    else .ok record
  else if record.model.isFrozen then
    .error (.invalidModel record.model.name [name])
  else if computedNames.contains name then
    .error .noMembers
  else if record.entries.any fun entry => entry.1.name = name then
    .ok { record with
      entries := record.entries.map fun entry =>
        if entry.1.name = name then (entry.1, .plain value) else entry }
  else
    .error .unknownField

/-- The public value of a record, with or without the fields that are null. -/
def Record.toJson
    (record : Record)
    (keepNulls : Bool) :
    Json :=
  (Accepted.record record.entries).toJson keepNulls

end Holdings.Schema
