import Holdings.Text.Blank
import Holdings.Text.Digit

/-!
# Integers in text

An integer is written with an optional sign and decimal digits of any script,
single underscores between them being skipped.  Such a numeral has at most 4300
digits, leading zeros included.  Behind `0x` an integer is written with
hexadecimal digits, in any number, and an underscore may also follow the mark.
-/

namespace Holdings.Text

/-- The number of digits that a decimal numeral may have. -/
def numeralLimit : Nat := 4300

/-- The values of digits that single underscores may divide. -/
def dividedDigits
    (digit? : Char → Option Nat) :
    List Char → Option (List Nat)
  | [] => none
  | [character] => (digit? character).map fun digit => [digit]
  | character :: '_' :: rest =>
    match digit? character, dividedDigits digit? rest with
    | some digit, some digits => some (digit :: digits)
    | _, _ => none
  | character :: rest =>
    match digit? character, dividedDigits digit? rest with
    | some digit, some digits => some (digit :: digits)
    | _, _ => none

@[simp]
theorem dividedDigits_nil
    (digit? : Char → Option Nat) :
    dividedDigits digit? [] = none :=
  rfl

/-- The number that a decimal numeral without sign denotes. -/
def readUnsigned
    (characters : List Char) :
    Option Nat :=
  (dividedDigits digitValue? characters).bind fun digits =>
    if digits.length ≤ numeralLimit then some (ofDigits 10 digits) else none

/-- The number that a decimal numeral with an optional sign denotes. -/
def readSigned
    (characters : List Char) :
    Option Int :=
  match characters with
  | '-' :: rest => (readUnsigned rest).map fun size => -(size : Int)
  | '+' :: rest => (readUnsigned rest).map fun size => (size : Int)
  | _ => (readUnsigned characters).map fun size => (size : Int)

/-- The integer that a text denotes. -/
def readInteger
    (text : String) :
    Option Int :=
  readSigned (stripEnds isNumeralGap text.toList)

/-- The number that hexadecimal digits denote; an underscore may stand in front of them. -/
def readHexDigits
    (characters : List Char) :
    Option Nat :=
  let digits :=
    match characters with
    | '_' :: rest => rest
    | _ => characters
  (dividedDigits hexDigitValue? digits).map (ofDigits 16)

/-- What follows a hexadecimal mark. -/
def afterHexMark
    (characters : List Char) :
    Option (List Char) :=
  match characters with
  | '0' :: 'x' :: rest => some rest
  | '0' :: 'X' :: rest => some rest
  | _ => none

/-- The size of a hexadecimal numeral, with its mark or without. -/
def readHexSize
    (characters : List Char) :
    Option Nat :=
  match afterHexMark characters with
  | some digits => readHexDigits digits
  | none => (dividedDigits hexDigitValue? characters).map (ofDigits 16)

/-- The integer that a text in base sixteen denotes. -/
def readHexInteger
    (text : String) :
    Option Int :=
  match stripEnds isNumeralGap text.toList with
  | '-' :: rest => (readHexSize rest).map fun size => -(size : Int)
  | '+' :: rest => (readHexSize rest).map fun size => (size : Int)
  | characters => (readHexSize characters).map fun size => (size : Int)

/-- The decimal text of a number. -/
def decimalText
    (value : Nat) :
    String :=
  String.ofList (decimalDigits value)

/-- The hexadecimal text of a number, with its mark. -/
def hexText
    (value : Nat) :
    String :=
  String.ofList ('0' :: 'x' :: hexDigits value)

end Holdings.Text
