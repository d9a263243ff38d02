import Holdings.Text.Digit
import Holdings.Text.Surrogate
import Holdings.Text.Utf8

/-!
# Targets of requests

A target is a path, behind which a query and a fragment may follow; the fragment
does not count.  The parts `.` and `..` of a path are resolved.  Then the path
is decoded: `%` and two hexadecimal digits stand for a byte, and the bytes are
read as UTF-8.  A `%` that no two digits follow stands for itself.  A query is a
list of names with values, decoded in the same way, where `+` is a space.
-/

namespace Holdings.Http

open Holdings.Text

/-- The bytes of a path in which escapes stand for single bytes. -/
def unescape : List Char → List UInt8
  | '%' :: high :: low :: rest =>
    match asciiHexDigitValue? high, asciiHexDigitValue? low with
    | some upper, some lower => UInt8.ofNat (16 * upper + lower) :: unescape rest
    | _, _ => String.utf8EncodeChar '%' ++ unescape (high :: low :: rest)
  | character :: rest => String.utf8EncodeChar character ++ unescape rest
  | [] => []

/-- The text that an escaped text stands for. -/
def decodeEscapes
    (text : String) :
    String :=
  ofCharacters (decodeUtf8 (unescape ((points text).map Char.ofNat)))

/-- The parts of a text between the places where a character stands. -/
def splitAt
    (separator : Char)
    (text : String) :
    List String :=
  (text.toList.splitOn separator).map String.ofList

/-- The parts of a path between its slashes. -/
def segments
    (path : String) :
    List String :=
  splitAt '/' path

/-- The parts of a path of which those before are kept, the last one first. -/
def resolveDots
    (kept : List String) :
    List String → List String
  | [] => kept.reverse
  | part :: rest =>
    if part = "." then resolveDots kept rest
    else if part = ".." then
      resolveDots (if kept.length ≤ 1 then kept else kept.drop 1) rest
    else
      resolveDots (part :: kept) rest

/-- The path that an escaped path stands for. -/
def decodePath
    (path : String) :
    String :=
  decodeEscapes ("/".intercalate (resolveDots [] (segments path)))

/-- A path without the slashes at its end. -/
def withoutFinalSlashes
    (path : String) :
    String :=
  String.ofList (path.toList.reverse.dropWhile (· = '/')).reverse

/-- The name and the value of one part of a query. -/
def readQueryPart
    (part : String) :
    String × String :=
  let spaced := part.toList.map fun character => if character = '+' then ' ' else character
  let (name, value) := spaced.span (· ≠ '=')
  (decodeEscapes (String.ofList name), decodeEscapes (String.ofList (value.drop 1)))

/-- The names and values of a query. -/
def readQuery
    (query : String) :
    List (String × String) :=
  ((splitAt '&' query).filter (· ≠ "")).map readQueryPart

/-- The path and the query of a target. -/
def splitTarget
    (target : String) :
    String × String :=
  let whole := target.toList.takeWhile (· ≠ '#')
  let (path, query) := whole.span (· ≠ '?')
  (String.ofList path, String.ofList (query.drop 1))

end Holdings.Http
