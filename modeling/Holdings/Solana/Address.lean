import Holdings.Codec.Base58
import Holdings.Fault
import Holdings.Hash.Sha256
import Holdings.Solana.Curve

/-!
# Account addresses

An address is 32 bytes, written in base 58.  Programs own accounts at derived
addresses: the hash of some seeds, a bump and the program, with the highest
bump for which the hash is no point of the curve.
-/

namespace Holdings.Solana

/-- The program that keeps classic token accounts. -/
def tokenProgram : String := "TokenkegQfeZyiNwAJbNbGKPFXCWuBvf9Ss623VQ5DA"

/-- The program that keeps extended token accounts. -/
def extendedTokenProgram : String := "TokenzQdBNbLqP5VEhdkAS6EPFLC1PHnBqCXEpPxuEb"

/-- The program that keeps metadata accounts. -/
def metadataProgram : String := "metaqbxxUerdq28cj1RbAWkYQm3ybzjb6a8bt518x1s"

/-- The longest text of an address. -/
def addressTextLimit : Nat := 44

/-- The bytes of an address. -/
def readAddress
    (text : String) :
    Except Fault Bytes :=
  if !Text.Charset.utf8.covers text then
    .error (.unencodable .utf8 text)
  else if addressTextLimit < text.utf8ByteSize then
    .error .notAnAccountAddress
  else
    match Base58.decode? text with
    | some bytes => if bytes.length = 32 then .ok bytes else .error .notAnAccountAddress
    | none => .error .notAnAccountAddress

/-- The candidate for a derived address with a bump. -/
def derivedCandidate
    (seeds : List Bytes)
    (bump : Nat)
    (program : Bytes) :
    Bytes :=
  Sha256.hash
    (seeds.flatten ++ [UInt8.ofNat bump] ++ program ++ Bytes.ofAscii "ProgramDerivedAddress")

/-- The derived address with the highest bump, not above a bound, that is no point. -/
def derivedAddressBelow
    (seeds : List Bytes)
    (program : Bytes) :
    Nat → Option Bytes
  | 0 => none
  | bump + 1 =>
    let candidate := derivedCandidate seeds (bump + 1) program
    if isOnCurve candidate then
      derivedAddressBelow seeds program bump
    else
      some candidate

/-- The address that a program derives from seeds. -/
def derivedAddress
    (seeds : List Bytes)
    (program : Bytes) :
    Option Bytes :=
  derivedAddressBelow seeds program 255

/-- The address of the metadata account of a mint. -/
def metadataAddress
    (mint : String) :
    Except Fault String := do
  let program ← readAddress metadataProgram
  let account ← readAddress mint
  match derivedAddress [Bytes.ofAscii "metadata", program, account] program with
  | some address => return Base58.encode address
  | none => throw .notAnAccountAddress

/-- The address of the metadata account of a mint, which has to be a text. -/
def metadataAddressOf
    (mint : Json) :
    Except Fault String :=
  match mint with
  | .text written => metadataAddress written
  | _ => .error .wrongShape

end Holdings.Solana
