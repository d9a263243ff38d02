import Holdings.Json.Quoted
import Holdings.Text.Surrogate

/-!
# Reading JSON text

The reader takes the standard grammar, the words `NaN`, `Infinity` and
`-Infinity`, and objects in which a name comes twice.  It refuses control
characters inside texts, leading zeros, trailing commas and a byte order mark.
A number without fraction and exponent is an exact integer; a reader may limit
how many digits it has, and how many arrays and objects stand within each other.
An escape may stand for half of a surrogate pair; only two halves in order are one
character.
-/

namespace Holdings.Json

open Holdings.Text

/-- Why a text was not read. -/
inductive ReadFault where
  | malformed
  | tooManyDigits
  | tooDeep
deriving DecidableEq, Repr

/-- How many digits an integer may have; `none` is no limit. -/
abbrev DigitCap := Option Nat

/-- What a reader step gives: a value and the characters that follow it. -/
abbrev Reading (α : Type) := Except ReadFault (α × List Char)

/-- The white space between tokens. -/
def isGap
    (character : Char) :
    Bool :=
  character = ' ' || character = '\t' || character = '\n' || character = '\r'

/-- Drops the white space in front of a token. -/
def skipGap
    (characters : List Char) :
    List Char :=
  characters.dropWhile isGap

/-- Whether a character is an ASCII decimal digit. -/
def isAsciiDigit
    (character : Char) :
    Bool :=
  '0' ≤ character && character ≤ '9'

/-- The values of ASCII decimal digits. -/
def asciiDigitValues
    (digits : List Char) :
    List Nat :=
  digits.map fun digit => digit.toNat - '0'.toNat

/-- The value of four hexadecimal digits and the characters behind them. -/
def readUnit
    (characters : List Char) :
    Option (Nat × List Char) :=
  match characters with
  | first :: second :: third :: fourth :: rest =>
    ([first, second, third, fourth].mapM asciiHexDigitValue?).map fun digits =>
      (ofDigits 16 digits, rest)
  | _ => none

/-- The code point of a UTF-16 escape, which takes a second escape for a pair. -/
def readEscapedUnit
    (characters : List Char) :
    Option (Nat × List Char) :=
  (readUnit characters).map fun (unit, rest) =>
    if 0xD800 ≤ unit ∧ unit < 0xDC00 then
      match rest with
      | '\\' :: 'u' :: next =>
        match readUnit next with
        | some (low, afterPair) =>
          if 0xDC00 ≤ low ∧ low < 0xE000 then
            (0x10000 + (unit - 0xD800) * 0x400 + (low - 0xDC00), afterPair)
          else
            (unit, rest)
        | none => (unit, rest)
      | _ => (unit, rest)
    else
      (unit, rest)

/-- The characters of an escape, given what follows the backslash. -/
def readEscape
    (characters : List Char) :
    Option (List Char × List Char) :=
  match characters with
  | '"' :: rest => some (['"'], rest)
  | '\\' :: rest => some (['\\'], rest)
  | '/' :: rest => some (['/'], rest)
  | 'b' :: rest => some (['\x08'], rest)
  | 'f' :: rest => some (['\x0c'], rest)
  | 'n' :: rest => some (['\n'], rest)
  | 'r' :: rest => some (['\r'], rest)
  | 't' :: rest => some (['\t'], rest)
  | 'u' :: rest => (readEscapedUnit rest).map fun (point, after) => (holdPoint point, after)
  | _ => none

/-- Reads the rest of a text whose opening mark is behind; the parts come backwards. -/
def readTextFrom
    (before : List Char) :
    Nat → List Char → Reading String
  | 0, _ => .error .malformed
  | _ + 1, [] => .error .malformed
  | fuel + 1, character :: rest =>
    if character = '"' then
      .ok (String.ofList before.reverse, rest)
    else if character = '\\' then
      match readEscape rest with
      | some (escaped, afterEscape) =>
        readTextFrom (escaped.reverse ++ before) fuel afterEscape
      | none => .error .malformed
    else if character.toNat < 32 then
      .error .malformed
    else
      readTextFrom (character :: before) fuel rest

/-- Reads the rest of a text whose opening mark is behind. -/
def readText
    (characters : List Char) :
    Reading String :=
  readTextFrom [] (characters.length + 1) characters

/-- The digits of a fraction, with what follows; no digit behind the point is no fraction. -/
def readFraction
    (characters : List Char) :
    Option (List Char × List Char) :=
  match characters with
  | '.' :: rest =>
    let digits := rest.takeWhile isAsciiDigit
    if digits.isEmpty then none else some (digits, rest.dropWhile isAsciiDigit)
  | _ => none

/-- The exponent of a number, with what follows. -/
def readExponent
    (characters : List Char) :
    Option (Int × List Char) :=
  match characters with
  | mark :: rest =>
    if mark = 'e' ∨ mark = 'E' then
      let (negative, unsigned) :=
        match rest with
        | '-' :: more => (true, more)
        | '+' :: more => (false, more)
        | _ => (false, rest)
      let digits := unsigned.takeWhile isAsciiDigit
      if digits.isEmpty then
        none
      else
        let size : Int := (ofDigits 10 (asciiDigitValues digits) : Nat)
        some (if negative then -size else size, unsigned.dropWhile isAsciiDigit)
    else
      none
  | [] => none

/-- Reads a number whose sign is behind. -/
def readNumber
    (cap : DigitCap)
    (negative : Bool)
    (characters : List Char) :
    Reading Json :=
  let run := characters.takeWhile isAsciiDigit
  let whole := if run.head? = some '0' then ['0'] else run
  if whole.isEmpty then
    .error .malformed
  else
    let afterWhole := characters.drop whole.length
    let fraction := readFraction afterWhole
    let afterFraction := (fraction.map (·.2)).getD afterWhole
    let exponent := readExponent afterFraction
    let rest := (exponent.map (·.2)).getD afterFraction
    if fraction.isNone && exponent.isNone then
      if cap.any (· < whole.length) then
        .error .tooManyDigits
      else
        let size : Int := (ofDigits 10 (asciiDigitValues whole) : Nat)
        .ok (.int (if negative then -size else size), rest)
    else
      let places := (fraction.map (·.1)).getD []
      let digits := (whole ++ places).dropWhile (· = '0')
      let value := ofDigits 10 (asciiDigitValues digits)
      let scale := (exponent.map (·.1)).getD 0 - places.length
      .ok (.double (Double.ofDecimal negative value digits.length scale), rest)

/-- Takes a word off the front of the characters. -/
def dropWord
    (word : String)
    (characters : List Char) :
    Option (List Char) :=
  if word.toList.isPrefixOf characters then
    some (characters.drop word.length)
  else
    none

/-- Reads one of the words that stand for values. -/
def readWord
    (characters : List Char) :
    Reading Json :=
  let words : List (String × Json) :=
    [("null", .null), ("true", .bool true), ("false", .bool false),
      ("NaN", .double .nan), ("Infinity", .double (.infinite false)),
      ("-Infinity", .double (.infinite true))]
  match words.findSome? fun (word, value) =>
      (dropWord word characters).map fun rest => (value, rest) with
  | some reading => .ok reading
  | none => .error .malformed

mutual

/-- Reads a value that starts at the first character, with room for so many levels. -/
def readValue
    (cap : DigitCap) :
    Nat → Nat → List Char → Reading Json
  | 0, _, _ => .error .malformed
  | fuel + 1, room, characters =>
    match characters with
    | '"' :: rest =>
      match readText rest with
      | .ok (value, afterText) => .ok (.text value, afterText)
      | .error fault => .error fault
    | '[' :: rest =>
      if room = 0 then
        .error .tooDeep
      else
        match skipGap rest with
        | ']' :: afterArray => .ok (.array [], afterArray)
        | items =>
          match readItems cap fuel (room - 1) items with
          | .ok (values, afterArray) => .ok (.array values, afterArray)
          | .error fault => .error fault
    | '\x7b' :: rest =>
      if room = 0 then
        .error .tooDeep
      else
        match skipGap rest with
        | '\x7d' :: afterObject => .ok (.object [], afterObject)
        | members =>
          match readMembers cap fuel (room - 1) members with
          | .ok (entries, afterObject) => .ok (ofMembers entries, afterObject)
          | .error fault => .error fault
    | '-' :: rest =>
      match rest with
      | 'I' :: _ => readWord characters
      | _ => readNumber cap true rest
    | first :: _ =>
      if isAsciiDigit first then
        readNumber cap false characters
      else
        readWord characters
    | [] => .error .malformed

/-- Reads the items of an array up to its closing bracket. -/
def readItems
    (cap : DigitCap) :
    Nat → Nat → List Char → Reading (List Json)
  | 0, _, _ => .error .malformed
  | fuel + 1, room, characters =>
    match readValue cap fuel room characters with
    | .error fault => .error fault
    | .ok (value, afterValue) =>
      match skipGap afterValue with
      | ']' :: rest => .ok ([value], rest)
      | ',' :: rest =>
        match readItems cap fuel room (skipGap rest) with
        | .ok (values, afterArray) => .ok (value :: values, afterArray)
        | .error fault => .error fault
      | _ => .error .malformed

/-- Reads the members of an object up to its closing brace. -/
def readMembers
    (cap : DigitCap) :
    Nat → Nat → List Char → Reading (List (String × Json))
  | 0, _, _ => .error .malformed
  | fuel + 1, room, characters =>
    match characters with
    | '"' :: rest =>
      match readText rest with
      | .error fault => .error fault
      | .ok (name, afterName) =>
        match skipGap afterName with
        | ':' :: beforeValue =>
          match readValue cap fuel room (skipGap beforeValue) with
          | .error fault => .error fault
          | .ok (value, afterValue) =>
            match skipGap afterValue with
            | '\x7d' :: afterObject => .ok ([(name, value)], afterObject)
            | ',' :: more =>
              match readMembers cap fuel room (skipGap more) with
              | .ok (entries, afterObject) => .ok ((name, value) :: entries, afterObject)
              | .error fault => .error fault
            | _ => .error .malformed
        | _ => .error .malformed
    | _ => .error .malformed

end

/-- Reads a text that holds one value with nothing but white space around it. -/
def parseWithin
    (room : Nat)
    (cap : DigitCap)
    (text : String) :
    Except ReadFault Json :=
  let characters := text.toList
  match readValue cap (2 * characters.length + 2) room (skipGap characters) with
  | .error fault => .error fault
  | .ok (value, rest) => if (skipGap rest).isEmpty then .ok value else .error .malformed

/-- Reads a text however deep it is: no deeper than it is long. -/
def parse
    (cap : DigitCap)
    (text : String) :
    Except ReadFault Json :=
  parseWithin text.length cap text

/-- Reads the body of a response or a request, whose integers and depth are limited. -/
def parseBody
    (text : String) :
    Except ReadFault Json :=
  parseWithin nestingLimit (some digitLimit) text

end Holdings.Json
