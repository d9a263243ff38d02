import Holdings.Codec.Bytes

/-!
# Keccak-256

The sponge over 25 words of 64 bits in its first padding, with a rate of 136
bytes and 32 bytes of output.
-/

namespace Holdings.Keccak

/-- The 25 words, column by column inside each row. -/
abbrev Lanes := List UInt64

/-- The word at a column and a row; both are taken modulo five. -/
def lane
    (lanes : Lanes)
    (column row : Nat) :
    UInt64 :=
  lanes.getD (column % 5 + 5 * (row % 5)) 0

/-- The lanes whose word at each column and row is given. -/
def build
    (word : Nat → Nat → UInt64) :
    Lanes :=
  (List.range 25).map fun place => word (place % 5) (place / 5)

/-- A word turned to the left. -/
def rotate
    (word : UInt64)
    (places : Nat) :
    UInt64 :=
  if places = 0 then
    word
  else
    (word <<< UInt64.ofNat places) ||| (word >>> UInt64.ofNat (64 - places))

/-- How far each word is turned. -/
def offsets : List Nat :=
  [0, 1, 62, 28, 27, 36, 44, 6, 55, 20, 3, 10, 43, 25, 39, 41, 45, 15, 21, 8,
    18, 2, 61, 56, 14]

/-- The constants of the 24 rounds. -/
def roundConstants : List UInt64 :=
  [0x0000000000000001, 0x0000000000008082, 0x800000000000808A, 0x8000000080008000,
    0x000000000000808B, 0x0000000080000001, 0x8000000080008081, 0x8000000000008009,
    0x000000000000008A, 0x0000000000000088, 0x0000000080008009, 0x000000008000000A,
    0x000000008000808B, 0x800000000000008B, 0x8000000000008089, 0x8000000000008003,
    0x8000000000008002, 0x8000000000000080, 0x000000000000800A, 0x800000008000000A,
    0x8000000080008081, 0x8000000000008080, 0x0000000080000001, 0x8000000080008008]

/-- Adds to each word the parities of the two columns beside it. -/
def mixColumns
    (lanes : Lanes) :
    Lanes :=
  let parities := (List.range 5).map fun column =>
    lane lanes column 0 ^^^ lane lanes column 1 ^^^ lane lanes column 2 ^^^
      lane lanes column 3 ^^^ lane lanes column 4
  let parity := fun column => parities.getD (column % 5) 0
  build fun column row =>
    lane lanes column row ^^^ parity (column + 4) ^^^ rotate (parity (column + 1)) 1

/-- Turns every word and moves it to its new place. -/
def turnAndMove
    (lanes : Lanes) :
    Lanes :=
  let turned := lanes.zipWith rotate offsets
  build fun column row => lane turned (column + 3 * row) column

/-- Combines each word with the next two of its row. -/
def mixRows
    (lanes : Lanes) :
    Lanes :=
  build fun column row =>
    lane lanes column row ^^^
      (~~~(lane lanes (column + 1) row) &&& lane lanes (column + 2) row)

/-- Adds a constant to the first word. -/
def addConstant
    (constant : UInt64) :
    Lanes → Lanes
  | [] => []
  | first :: rest => (first ^^^ constant) :: rest

/-- The permutation of the sponge. -/
def permute
    (lanes : Lanes) :
    Lanes :=
  roundConstants.foldl
    (fun current constant =>
      addConstant constant (mixRows (turnAndMove (mixColumns current))))
    lanes

/-- The number of bytes that are taken in at once. -/
def rate : Nat := 136

/-- Groups bytes into words of eight, the lowest byte first. -/
def words : Bytes → List UInt64
  | first :: second :: third :: fourth :: fifth :: sixth :: seventh :: eighth :: rest =>
    UInt64.ofNat (Bytes.littleEndian
      [first, second, third, fourth, fifth, sixth, seventh, eighth]) :: words rest
  | _ => []

/-- Takes in so many blocks. -/
def absorb
    (lanes : Lanes) :
    Nat → Bytes → Lanes
  | 0, _ => lanes
  | blocks + 1, bytes =>
    let block := words (bytes.take rate)
    let mixed := lanes.zipWith (· ^^^ ·) (block ++ List.replicate (25 - block.length) 0)
    absorb (permute mixed) blocks (bytes.drop rate)

/-- A message with its end marks, a whole number of blocks long. -/
def pad
    (message : Bytes) :
    Bytes :=
  let missing := rate - message.length % rate
  if missing = 1 then
    message ++ [0x81]
  else
    message ++ 0x01 :: List.replicate (missing - 2) 0 ++ [0x80]

/-- The hash of a message. -/
def hash
    (message : Bytes) :
    Bytes :=
  let padded := pad message
  let lanes := absorb (List.replicate 25 0) (padded.length / rate) padded
  (lanes.take 4).flatMap fun word => Bytes.ofNatLittle word.toNat 8

end Holdings.Keccak
