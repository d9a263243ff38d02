import Holdings.Text.Integer

/-!
# Integers in loosely written text

A public field that is an integer may be given as a text.  The text may have
blanks around it, a plus sign, zeros in front, underscores among its digits and a
fraction of zeros behind them.  Each of these is taken away by one step; what is
left has to be the one strict numeral of an integer, of at most 4300 digits.

A minus sign in front is set aside before the other steps.  These act on the
characters alone, so zeros and underscores in front of a minus sign that comes
later go as well.
-/

namespace Holdings.Text

/-- The value of an ASCII decimal digit. -/
def asciiDigitValue?
    (character : Char) :
    Option Nat :=
  if character.toNat < 128 then digitValue? character else none

/--
The number of a strict numeral without sign: digits, not too many, and no zero in front
of others.
-/
def readStrictSize
    (characters : List Char) :
    Option Nat :=
  match characters with
  | [] => none
  | '0' :: _ :: _ => none
  | _ =>
    if numeralLimit < characters.length then
      none
    else
      (characters.mapM asciiDigitValue?).map (ofDigits 10)

/-- The integer of a strict numeral. -/
def readStrictInteger
    (characters : List Char) :
    Option Int :=
  match characters with
  | '-' :: size => (readStrictSize size).map fun value => -(value : Int)
  | size => (readStrictSize size).map fun value => (value : Int)

/-- Takes a plus sign away, unless a minus sign follows it. -/
def dropPlus
    (characters : List Char) :
    Option (List Char) :=
  match characters with
  | '+' :: '-' :: _ => none
  | '+' :: rest => some rest
  | _ => some characters

/-- Whether a character starts the number behind zeros and underscores. -/
def startsNumber
    (character : Char) :
    Bool :=
  ('1' ≤ character && character ≤ '9') || character = '-'

/--
What follows zeros and underscores, given the last of them: the number itself, or
the last of them when a point or nothing follows.
-/
def afterZeros
    (last : Char) :
    List Char → Option (List Char)
  | [] => some [last]
  | character :: rest =>
    if character = '0' ∨ character = '_' then afterZeros character rest
    else if startsNumber character then some (character :: rest)
    else if character = '.' then some (last :: character :: rest)
    else none

/-- Takes the zeros in front of a number away, with the underscores among them. -/
def dropZeros
    (characters : List Char) :
    Option (List Char) :=
  match characters with
  | [] => none
  | first :: rest =>
    if first = '0' then afterZeros first rest
    else if startsNumber first then some characters
    else none

/-- Takes a point away that zeros follow, at least one and nothing else. -/
def dropZeroFraction
    (characters : List Char) :
    List Char :=
  match characters.span (· ≠ '.') with
  | (whole, _ :: places) =>
    if !places.isEmpty && places.all (· = '0') then whole else characters
  | (_, []) => characters

/-- Whether two underscores follow each other. -/
def hasDoubleUnderscore : List Char → Bool
  | '_' :: '_' :: _ => true
  | _ :: rest => hasDoubleUnderscore rest
  | [] => false

/-- Takes single underscores away that stand between other characters. -/
def dropUnderscores
    (characters : List Char) :
    List Char :=
  if characters.head? = some '_' || characters.getLast? = some '_' ||
      hasDoubleUnderscore characters then
    characters
  else
    characters.filter (· ≠ '_')

/-- The strict numeral that a loosely written one comes to, a sign in front apart. -/
def cleanSize
    (characters : List Char) :
    Option (List Char) :=
  (dropZeros characters).map fun number => dropUnderscores (dropZeroFraction number)

/-- The strict numeral that a loosely written one comes to. -/
def cleanInteger
    (characters : List Char) :
    Option (List Char) :=
  (dropPlus (stripEnds isNumeralGap characters)).bind fun unsigned =>
    match unsigned with
    | '-' :: size => (cleanSize size).map ('-' :: ·)
    | size => cleanSize size

/-- The integer that a loosely written text denotes. -/
def readLooseInteger
    (text : String) :
    Option Int :=
  match readStrictInteger text.toList with
  | some value => some value
  | none => (cleanInteger text.toList).bind readStrictInteger

end Holdings.Text
