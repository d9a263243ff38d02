/-!
# Halves of surrogate pairs

An escape in a JSON text may stand for half of a surrogate pair, which is a code
point but no character.  A text is held as characters all the same: a half is
held as the private character that lies 0x100000 above it.  Where such a
private character stands for itself it has a mark in front, and so has the mark.
Every other code point is held as its own character, so a text without these
private characters is held as it is.
-/

namespace Holdings.Text

/-- Whether a code point is half of a surrogate pair. -/
def isHalf
    (point : Nat) :
    Bool :=
  0xD800 ≤ point && point < 0xE000

/-- How far the character that holds a half lies above it. -/
def halfDistance : Nat := 0x100000

/-- The character in front of a private character that stands for itself. -/
def privateMark : Char := Char.ofNat 0x10E000

/-- Whether a code point is held behind the mark. -/
def needsMark
    (point : Nat) :
    Bool :=
  0x10D800 ≤ point && point ≤ 0x10E000

/-- The characters that hold a code point. -/
def holdPoint
    (point : Nat) :
    List Char :=
  if isHalf point then [Char.ofNat (point + halfDistance)]
  else if needsMark point then [privateMark, Char.ofNat point]
  else [Char.ofNat point]

/-- The code point that a character without a mark in front of it holds. -/
def pointOf
    (character : Char) :
    Nat :=
  let code := character.toNat
  if isHalf (code - halfDistance) then code - halfDistance else code

/-- The code points that characters hold. -/
def pointsOf : List Char → List Nat
  | [] => []
  | [character] => [pointOf character]
  | character :: next :: rest =>
    if character = privateMark then
      next.toNat :: pointsOf rest
    else
      pointOf character :: pointsOf (next :: rest)

@[simp]
theorem pointsOf_nil :
    pointsOf [] = [] :=
  rfl

@[simp]
theorem pointsOf_singleton
    (character : Char) :
    pointsOf [character] = [pointOf character] :=
  rfl

/-- The code points of a text. -/
def points
    (text : String) :
    List Nat :=
  pointsOf text.toList

/-- The text that code points form. -/
def ofPoints
    (points : List Nat) :
    String :=
  String.ofList (points.flatMap holdPoint)

/-- The text of characters each of which stands for itself. -/
def ofCharacters
    (characters : List Char) :
    String :=
  ofPoints (characters.map Char.toNat)

/-- The text of the first code points of a text. -/
def takePoints
    (count : Nat)
    (text : String) :
    String :=
  ofPoints ((points text).take count)

/-- The text behind the first code points of a text. -/
def dropPoints
    (count : Nat)
    (text : String) :
    String :=
  ofPoints ((points text).drop count)

/-- Whether a text comes before another by code points, or is the same. -/
def inOrder
    (left right : String) :
    Bool :=
  !(points right).lex (points left) Nat.blt

/-- Whether a text has half of a surrogate pair in it. -/
def hasHalf
    (text : String) :
    Bool :=
  (points text).any isHalf

/-- The code points of UTF-16 units, in which two halves in order are one code point. -/
def joinPairs : List Nat → List Nat
  | high :: low :: rest =>
    if 0xD800 ≤ high ∧ high < 0xDC00 ∧ 0xDC00 ≤ low ∧ low < 0xE000 then
      (0x10000 + (high - 0xD800) * 0x400 + (low - 0xDC00)) :: joinPairs rest
    else
      high :: joinPairs (low :: rest)
  | units => units

end Holdings.Text
