import Holdings.Text.CodeRange

/-!
# Blank characters and trimming

Blanks are the white space of Unicode together with the four information
separators U+001C to U+001F.  Zero-width characters are not blank.  `trim`
removes blanks from both ends of a text and touches nothing between them.
-/

namespace Holdings.Text

/-- The ranges that hold the blank characters. -/
def blanks : List CodeRange :=
  [⟨0x9, 0xD⟩, ⟨0x1C, 0x20⟩, ⟨0x85, 0x85⟩, ⟨0xA0, 0xA0⟩, ⟨0x1680, 0x1680⟩,
    ⟨0x2000, 0x200A⟩, ⟨0x2028, 0x2029⟩, ⟨0x202F, 0x202F⟩, ⟨0x205F, 0x205F⟩,
    ⟨0x3000, 0x3000⟩]

/-- Whether a character is white space or an information separator. -/
def isBlank
    (character : Char) :
    Bool :=
  inTable blanks character

/-- The four information separators, which end no numeral. -/
def isSeparator
    (character : Char) :
    Bool :=
  (CodeRange.mk 0x1C 0x1F).holds character

/-- Blanks that may stand around a numeral; information separators may not. -/
def isNumeralGap
    (character : Char) :
    Bool :=
  isBlank character && !isSeparator character

/-- Drops the characters of a class from both ends of a list. -/
def stripEnds
    (inClass : Char → Bool)
    (characters : List Char) :
    List Char :=
  ((characters.dropWhile inClass).reverse.dropWhile inClass).reverse

@[simp]
theorem stripEnds_nil
    (inClass : Char → Bool) :
    stripEnds inClass [] = [] :=
  rfl

/-- Drops the blanks from both ends of a list of characters. -/
def trimList
    (characters : List Char) :
    List Char :=
  stripEnds isBlank characters

/-- Drops the blanks from both ends of a text. -/
def trim
    (text : String) :
    String :=
  String.ofList (trimList text.toList)

@[simp]
theorem toList_trim
    (text : String) :
    (trim text).toList = trimList text.toList := by
  simp [trim]

/-- Whether a text holds nothing but blanks. -/
def isBlankText
    (text : String) :
    Bool :=
  text.toList.all isBlank

end Holdings.Text
