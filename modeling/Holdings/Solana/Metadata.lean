import Holdings.Codec.Base58
import Holdings.Fault
import Holdings.Text.Blank
import Holdings.Text.Utf8

/-!
# Metadata accounts

A metadata account describes a mint.  Its bytes are, in order: the kind, the
authority that may update it, the mint, name, symbol and link, the fee of a
sale, the creators if there are any, and two flags.  Texts come with their
length in front and are padded with NUL; numbers have their lowest byte first.
Bytes behind the last flag are of no account.
-/

namespace Holdings.Solana

/-- One creator of a token and the share of a sale that goes to it. -/
structure Creator where
  address : String
  verified : Bool
  share : Nat
deriving DecidableEq, Repr, Inhabited

/-- What a metadata account says. -/
structure Metadata where
  updateAuthority : String
  mint : String
  name : String
  symbol : String
  link : String
  sellerFee : Nat
  creators : List Creator
  primarySaleHappened : Bool
  isMutable : Bool
deriving DecidableEq, Repr, Inhabited

namespace Metadata

/-- The first byte of a metadata account. -/
def kindByte : UInt8 := 4

/-- Reads a value from the front of a byte string and leaves the bytes behind it. -/
abbrev Reader := StateT Bytes Option

/-- The first bytes of a byte string that has so many. -/
def readBytes
    (count : Nat) :
    Reader Bytes := fun bytes =>
  let front := bytes.take count
  if front.length = count then some (front, bytes.drop count) else none

/-- A number of so many bytes. -/
def readNumber
    (count : Nat) :
    Reader Nat := do
  return (← readBytes count).littleEndian

/-- A flag, which is set by any byte but zero. -/
def readFlag :
    Reader Bool := do
  return (← readNumber 1) != 0

/-- An address, in base 58. -/
def readKey :
    Reader String := do
  return Base58.encode (← readBytes 32)

/-- Drops NUL characters from both ends, and then blanks. -/
def stripPadding
    (characters : List Char) :
    List Char :=
  Text.trimList (Text.stripEnds (· = '\x00') characters)

/-- A text with its length in front. -/
def readText :
    Reader String := do
  let length ← readNumber 4
  let content ← readBytes length
  return Text.ofCharacters (stripPadding (Text.decodeUtf8 content))

/-- One creator. -/
def readCreator :
    Reader Creator := do
  let address ← readKey
  let verified ← readFlag
  let share ← readNumber 1
  return { address, verified, share }

/-- So many creators. -/
def readCreatorList : Nat → Reader (List Creator)
  | 0 => return []
  | count + 1 => do
    let creator ← readCreator
    let creators ← readCreatorList count
    return creator :: creators

/-- The creators, behind a flag that says whether a list follows. -/
def readCreators :
    Reader (List Creator) := do
  if ← readFlag then
    readCreatorList (← readNumber 4)
  else
    return []

/-- The fields of an account behind its first byte. -/
def readFields :
    Reader Metadata := do
  let updateAuthority ← readKey
  let mint ← readKey
  let name ← readText
  let symbol ← readText
  let link ← readText
  let sellerFee ← readNumber 2
  let creators ← readCreators
  let primarySaleHappened ← readFlag
  let isMutable ← readFlag
  return {
    updateAuthority, mint, name, symbol, link, sellerFee, creators,
    primarySaleHappened, isMutable }

/-- Reads a metadata account. -/
def decode
    (bytes : Bytes) :
    Except Fault Metadata :=
  match bytes with
  | [] => .error .notMetadata
  | kind :: fields =>
    if kind = kindByte then
      match readFields.run fields with
      | some (metadata, _) => .ok metadata
      | none => .error .truncatedMetadata
    else
      .error .notMetadata

end Metadata

end Holdings.Solana
