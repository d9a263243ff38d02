import Holdings.Fault
import Holdings.Text.Integer

/-!
# Amounts as they are received

A source gives an amount in the smallest unit of its asset, as an integer,
as a decimal numeral or as a hexadecimal numeral behind `0x`.  Null and a blank
text stand for zero.  Nothing else is an amount, and no amount is negative.
-/

namespace Holdings.Amount

open Holdings.Text

/-- The integer that a text without blanks at its ends denotes. -/
def readTrimmed
    (characters : List Char) :
    Option Int :=
  match afterHexMark characters with
  | some digits => (readHexDigits digits).map fun size => (size : Int)
  | none => readInteger (String.ofList characters)

/-- Accepts an integer that is not negative. -/
def checkSign
    (given : Json)
    (amount : Int) :
    Except Fault Nat :=
  if amount < 0 then
    .error (Fault.naming given (.negativeAmount given))
  else
    .ok amount.toNat

/-- The amount that a text denotes; a blank text is zero. -/
def ofText
    (text : String) :
    Except Fault Nat :=
  let characters := trimList text.toList
  if characters.isEmpty then
    .ok 0
  else
    match readTrimmed characters with
    | some amount => checkSign (.text text) amount
    | none => .error (.invalidAmount (.text text))

/-- The amount that a received value denotes, in the smallest unit. -/
def read
    (given : Json) :
    Except Fault Nat :=
  match given with
  | .null => .ok 0
  | .int amount => checkSign given amount
  | .text written => ofText written
  | _ => .error (Fault.naming given (.invalidAmount given))

@[simp]
theorem read_null :
    read .null = .ok 0 :=
  rfl

@[simp]
theorem read_text
    (written : String) :
    read (.text written) = ofText written :=
  rfl

theorem read_natural
    (amount : Nat) :
    read (.int amount) = .ok amount := by
  simp [read, checkSign]

/-- The decimal text of an amount that is short enough to be printed. -/
def print
    (amount : Nat) :
    Except Fault String :=
  if amount < Nat.pow 10 numeralLimit then .ok (decimalText amount) else .error .digitLimit

end Holdings.Amount
