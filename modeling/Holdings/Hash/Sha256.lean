import Holdings.Codec.Bytes

/-!
# SHA-256

The hash of a byte string.  The message schedule is a window of sixteen words
that slides by one word a round.
-/

namespace Holdings.Sha256

/-- The eight words that a block is mixed into. -/
structure Chain where
  a : UInt32
  b : UInt32
  c : UInt32
  d : UInt32
  e : UInt32
  f : UInt32
  g : UInt32
  h : UInt32
deriving DecidableEq, Repr

/-- The words before the first block. -/
def Chain.start : Chain :=
  ⟨0x6a09e667, 0xbb67ae85, 0x3c6ef372, 0xa54ff53a,
    0x510e527f, 0x9b05688c, 0x1f83d9ab, 0x5be0cd19⟩

/-- The constants of the 64 rounds. -/
def roundConstants : List UInt32 :=
  [0x428a2f98, 0x71374491, 0xb5c0fbcf, 0xe9b5dba5, 0x3956c25b, 0x59f111f1, 0x923f82a4,
    0xab1c5ed5, 0xd807aa98, 0x12835b01, 0x243185be, 0x550c7dc3, 0x72be5d74, 0x80deb1fe,
    0x9bdc06a7, 0xc19bf174, 0xe49b69c1, 0xefbe4786, 0x0fc19dc6, 0x240ca1cc, 0x2de92c6f,
    0x4a7484aa, 0x5cb0a9dc, 0x76f988da, 0x983e5152, 0xa831c66d, 0xb00327c8, 0xbf597fc7,
    0xc6e00bf3, 0xd5a79147, 0x06ca6351, 0x14292967, 0x27b70a85, 0x2e1b2138, 0x4d2c6dfc,
    0x53380d13, 0x650a7354, 0x766a0abb, 0x81c2c92e, 0x92722c85, 0xa2bfe8a1, 0xa81a664b,
    0xc24b8b70, 0xc76c51a3, 0xd192e819, 0xd6990624, 0xf40e3585, 0x106aa070, 0x19a4c116,
    0x1e376c08, 0x2748774c, 0x34b0bcb5, 0x391c0cb3, 0x4ed8aa4a, 0x5b9cca4f, 0x682e6ff3,
    0x748f82ee, 0x78a5636f, 0x84c87814, 0x8cc70208, 0x90befffa, 0xa4506ceb, 0xbef9a3f7,
    0xc67178f2]

/-- A word turned to the right. -/
def rotate
    (word : UInt32)
    (places : UInt32) :
    UInt32 :=
  (word >>> places) ||| (word <<< (32 - places))

/-- The word that follows a window of sixteen in the message schedule. -/
def nextWord
    (window : List UInt32) :
    UInt32 :=
  let early := window.getD 1 0
  let late := window.getD 14 0
  let lowMix := rotate early 7 ^^^ rotate early 18 ^^^ (early >>> 3)
  let highMix := rotate late 17 ^^^ rotate late 19 ^^^ (late >>> 10)
  highMix + window.getD 9 0 + lowMix + window.getD 0 0

/-- One round with a constant and a word of the schedule. -/
def Chain.round
    (chain : Chain)
    (constant word : UInt32) :
    Chain :=
  let highMix := rotate chain.e 6 ^^^ rotate chain.e 11 ^^^ rotate chain.e 25
  let choice := (chain.e &&& chain.f) ^^^ (~~~chain.e &&& chain.g)
  let first := chain.h + highMix + choice + constant + word
  let lowMix := rotate chain.a 2 ^^^ rotate chain.a 13 ^^^ rotate chain.a 22
  let majority := (chain.a &&& chain.b) ^^^ (chain.a &&& chain.c) ^^^ (chain.b &&& chain.c)
  ⟨first + (lowMix + majority), chain.a, chain.b, chain.c,
    chain.d + first, chain.e, chain.f, chain.g⟩

/-- All rounds of a block, over the sliding window of the schedule. -/
def rounds
    (chain : Chain)
    (window : List UInt32) :
    List UInt32 → Chain
  | [] => chain
  | constant :: rest =>
    rounds (chain.round constant (window.headD 0)) (window.tail ++ [nextWord window]) rest

/-- Adds two chains word by word. -/
def Chain.add
    (left right : Chain) :
    Chain :=
  ⟨left.a + right.a, left.b + right.b, left.c + right.c, left.d + right.d,
    left.e + right.e, left.f + right.f, left.g + right.g, left.h + right.h⟩

/-- Groups bytes into words of four, the highest byte first. -/
def words : Bytes → List UInt32
  | first :: second :: third :: fourth :: rest =>
    UInt32.ofNat (Bytes.bigEndian [first, second, third, fourth]) :: words rest
  | _ => []

/-- Mixes all blocks of sixteen words into a chain. -/
def mixBlocks
    (chain : Chain) :
    Nat → List UInt32 → Chain
  | 0, _ => chain
  | blocks + 1, schedule =>
    mixBlocks (chain.add (rounds chain (schedule.take 16) roundConstants)) blocks
      (schedule.drop 16)

/-- A message with its end mark, zeros and its length in bits. -/
def pad
    (message : Bytes) :
    Bytes :=
  let zeros := (119 - message.length % 64) % 64
  message ++ 0x80 :: List.replicate zeros 0 ++ Bytes.ofNatBig (8 * message.length) 8

/-- The hash of a message. -/
def hash
    (message : Bytes) :
    Bytes :=
  let schedule := words (pad message)
  let chain := mixBlocks .start (schedule.length / 16) schedule
  [chain.a, chain.b, chain.c, chain.d, chain.e, chain.f, chain.g, chain.h].flatMap
    fun word => Bytes.ofNatBig word.toNat 4

end Holdings.Sha256
