import Holdings.Codec.Bytes

/-!
# Points of the Edwards curve

A key of 32 bytes stands for a point when the curve has a point with its second
coordinate.  The equation `x² = (y² - 1) / (d y² + 1)` is solvable exactly when
the product of numerator and denominator is a square of the field.
-/

namespace Holdings.Solana

/-- The size of the field. -/
def fieldSize : Nat := Nat.pow 2 255 - 19

/-- The constant of the curve. -/
def curveConstant : Nat :=
  37095705934669439343138083508754565189542113879843219016388785533085940283555

/-- A power in the field, by repeated squaring from the highest bit of the exponent. -/
def fieldPower
    (base exponent : Nat) :
    Nat :=
  (List.range 255).reverse.foldl
    (fun power bit =>
      let square := power * power % fieldSize
      if exponent.testBit bit then square * base % fieldSize else square)
    1

/-- Whether an element of the field is zero or a square. -/
def isSquare
    (element : Nat) :
    Bool :=
  fieldPower element ((fieldSize - 1) / 2) ≤ 1

/-- Whether a key stands for a point of the curve; the bit of the sign is left aside. -/
def isOnCurve
    (key : Bytes) :
    Bool :=
  let second := Bytes.littleEndian key % Nat.pow 2 255 % fieldSize
  let squared := second * second % fieldSize
  let numerator := (squared + fieldSize - 1) % fieldSize
  let denominator := (curveConstant * squared + 1) % fieldSize
  isSquare (numerator * denominator % fieldSize)

end Holdings.Solana
