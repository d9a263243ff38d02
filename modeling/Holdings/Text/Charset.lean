import Holdings.Text.Digit
import Holdings.Text.Surrogate
import Holdings.Text.Utf8

/-!
# Character sets

A text that is to be written in a character set may have code points that the
set lacks, and bytes that are read in UTF-8 may be none.  A complaint names the
first place of that kind: one code point or byte by its number, several in a row
by their positions.
-/

namespace Holdings.Text

/-- A set of characters that texts are written in. -/
inductive Charset where
  | ascii
  | utf8
deriving DecidableEq, Repr, Inhabited

namespace Charset

/-- The name of a character set. -/
def name : Charset → String
  | .ascii => "ascii"
  | .utf8 => "utf-8"

/-- Whether a character set has no form for a code point. -/
def lacks
    (charset : Charset)
    (point : Nat) :
    Bool :=
  match charset with
  | .ascii => 128 ≤ point
  | .utf8 => isHalf point

/-- Why a code point has no form in a character set. -/
def reason : Charset → String
  | .ascii => "ordinal not in range(128)"
  | .utf8 => "surrogates not allowed"

/-- Whether a text can be written in a character set. -/
def covers
    (charset : Charset)
    (text : String) :
    Bool :=
  !(points text).any charset.lacks

end Charset

/-- Hexadecimal digits of a number, at least as many as a width. -/
def paddedHex
    (width value : Nat) :
    List Char :=
  let digits := hexDigits value
  List.replicate (width - digits.length) '0' ++ digits

/-- A code point by its number. -/
def numberedPoint
    (point : Nat) :
    List Char :=
  if point < 256 then '\\' :: 'x' :: paddedHex 2 point
  else if point < 65536 then '\\' :: 'u' :: paddedHex 4 point
  else '\\' :: 'U' :: paddedHex 8 point

/-- The positions of so many things in a row. -/
def namedRange
    (position length : Nat) :
    String :=
  s!"{position}-{position + length - 1}"

/-- What is said of a text that cannot be written in a character set. -/
def Charset.complaint
    (charset : Charset)
    (text : String) :
    String :=
  let (before, rest) := (points text).span fun point => !charset.lacks point
  let place :=
    match rest.takeWhile charset.lacks with
    | [point] =>
      s!"character '{String.ofList (numberedPoint point)}' in position {before.length}"
    | run => s!"characters in position {namedRange before.length run.length}"
  s!"'{charset.name}' codec can't encode {place}: {charset.reason}"

/-- Why bytes are no UTF-8. -/
def Utf8Flaw.reason : Utf8Flaw → String
  | .badStart => "invalid start byte"
  | .badTail => "invalid continuation byte"
  | .cutOff => "unexpected end of data"

/-- What is said of bytes that are no UTF-8, given the first of those in question. -/
def Utf8Defect.complaint
    (defect : Utf8Defect)
    (first : UInt8) :
    String :=
  let place :=
    if defect.length = 1 then
      s!"byte 0x{String.ofList (paddedHex 2 first.toNat)} in position {defect.position}"
    else
      s!"bytes in position {namedRange defect.position defect.length}"
  s!"'{Charset.utf8.name}' codec can't decode {place}: {defect.flaw.reason}"

end Holdings.Text
