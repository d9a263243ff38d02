import Holdings.Evm.Form

/-!
# Fees of EVM networks

Nodes write quantities in hexadecimal; they are read as integers.  Whatever
else a node answers with stays as it is, so a fee may also be a floating-point
number, and one such number makes every sum it enters a floating-point number.

A node that knows no priority fee gets one from the history of its blocks: the
mean of the fees that were paid, within bounds.
-/

namespace Holdings.Evm

/-- A number that can be reckoned with: whole, or in floating point. -/
inductive Fee where
  | whole (value : Int)
  | real (value : Double)
deriving DecidableEq, Repr, Inhabited

namespace Fee

/-- The fee that a value is; a truth value counts as one or zero. -/
def ofJson? : Json → Option Fee
  | .int value => some (.whole value)
  | .bool value => some (.whole (if value then 1 else 0))
  | .double value => some (.real value)
  | _ => none

/-- The fee that a value has to be. -/
def ofJson
    (value : Json) :
    Except Fault Fee :=
  match ofJson? value with
  | some fee => .ok fee
  | none => .error .wrongShape

/-- A fee as a value. -/
def toJson : Fee → Json
  | .whole value => .int value
  | .real value => .double value

@[simp]
theorem ofJson_toJson
    (fee : Fee) :
    ofJson fee.toJson = .ok fee := by
  cases fee <;> rfl

/-- Whether a fee is zero. -/
def isZero : Fee → Bool
  | .whole value => value = 0
  | .real value => value.isZero

/-- A fee in floating point; a whole one beyond the largest finite number has none. -/
def toDouble : Fee → Except Fault Double
  | .real value => .ok value
  | .whole value =>
    let nearest := Double.ofInt value
    if nearest.isFinite then .ok nearest else .error .infiniteInteger

/-- The sum of two fees, which is exact when both are whole. -/
def add : Fee → Fee → Except Fault Fee
  | .whole left, .whole right => .ok (.whole (left + right))
  | left, right => do
    return .real ((← left.toDouble).add (← right.toDouble))

@[simp]
theorem add_whole
    (left right : Int) :
    add (.whole left) (.whole right) = .ok (.whole (left + right)) :=
  rfl

/-- The sum of a list of fees, taken from the left. -/
def sum
    (fees : List Fee) :
    Except Fault Fee :=
  fees.foldlM add (.whole 0)

/-- A fee over a positive number, in floating point. -/
def divNat
    (fee : Fee)
    (count : Nat) :
    Double :=
  match fee with
  | .whole value => Double.ofRatio (decide (value < 0)) value.natAbs count
  | .real value => value.divNat count

/-- The mean of fees, rounded to a floating-point number and then to an integer. -/
def mean
    (fees : List Fee) :
    Except Fault Int := do
  let total ← sum fees
  match (total.divNat (max 1 fees.length)).round? with
  | some mean => return mean
  | none => throw .infiniteInteger

end Fee

/-- The smallest priority fee that is estimated from past blocks. -/
def estimateFloor : Int := 1000000000

/-- The largest priority fee that is estimated from past blocks. -/
def estimateCeiling : Int := 1500000000

/-- What is told about past blocks. -/
def historyForm : Form :=
  .record
    [("baseFeePerGas", .each .quantity), ("gasUsedRatio", .nullable (.each .real)),
      ("oldestBlock", .nullable .quantity), ("reward", .nullable (.each (.each .quantity)))]

/-- The entries of a list; an object in its place has none. -/
def entriesOf : Formed → Except Fault (List Formed)
  | .list items => .ok items
  | .object _ _ => .ok []
  | .leaf _ => .error .wrongShape

/-- The first reward of a block, if it was not zero. -/
def paidReward
    (rewards : Formed) :
    Except Fault (Option Fee) := do
  match ← entriesOf rewards with
  | [] => throw .missingItem
  | first :: _ =>
    let fee ← Fee.ofJson first.toJson
    return if fee.isZero then none else some fee

/-- The priority fee that past blocks suggest: the mean of the fees that were paid. -/
def estimatePriority
    (history : Json) :
    Except Fault Int := do
  match ← historyForm.read history with
  | .object _ members =>
    match Formed.find? members "reward" with
    | none => throw .missingMember
    | some rewards =>
      let paid ← (← entriesOf rewards).mapM paidReward
      let mean ← Fee.mean (paid.filterMap id)
      return max estimateFloor (min estimateCeiling mean)
  | _ => throw .wrongShape

/--
Twice the base fee and the priority fee on top; null when there is no base fee.  Of lists
in place of numbers the sum is one list after the other.
-/
def highestFee
    (base priority : Json) :
    Except Fault Json :=
  match base, priority with
  | .null, _ => .ok .null
  | .array fees, .array tips => do
    return .text (← (Json.array (fees ++ fees ++ tips)).printIn Json.recordMarks)
  | _, _ => do
    let baseFee ← Fee.ofJson base
    let tip ← Fee.ofJson priority
    let doubled ← baseFee.add baseFee
    let highest ← doubled.add tip
    return .text (← highest.toJson.print)

end Holdings.Evm
