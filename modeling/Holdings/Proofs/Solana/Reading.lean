import Holdings.Proofs.Text.Ends
import Holdings.Proofs.Text.Utf8
import Holdings.Solana.Metadata
import Mathlib.Tactic.Ring

/-!
# What the readers of metadata accounts read

A reader reads a byte string as a value when it takes exactly these bytes from
the front of any byte string that starts with them.  Readers that come one after
the other read byte strings that come one after the other, so the running place
in an account never has to be spoken of.
-/

namespace Holdings

open Text

/-! ## Numbers -/

namespace Bytes

/-- A number that fits is read back from its bytes. -/
theorem littleEndian_ofNatLittle
    {value count : Nat}
    (fits : value < 256 ^ count) :
    littleEndian (ofNatLittle value count) = value := by
  induction count generalizing value with
  | zero =>
      have zero : value = 0 := by simpa using fits
      rw [zero]
      rfl
  | succ count induction =>
      have rest : value / 256 < 256 ^ count := by
        rw [Nat.div_lt_iff_lt_mul (by decide)]
        exact fits
      have byte : (UInt8.ofNat (value % 256)).toNat = value % 256 :=
        UInt8.toNat_ofNat_of_lt' (Nat.mod_lt value (by decide))
      rw [ofNatLittle, littleEndian_cons, induction rest, byte]
      exact Nat.mod_add_div value 256

theorem littleEndian_lt
    (bytes : Bytes) :
    littleEndian bytes < 256 ^ bytes.length := by
  induction bytes with
  | nil =>
      decide
  | cons byte rest induction =>
      have small : byte.toNat < 256 := byte.toNat_lt
      rw [littleEndian_cons, List.length_cons, Nat.pow_succ]
      omega

/-- Bytes are the bytes of the number that they are read as. -/
theorem ofNatLittle_littleEndian
    (bytes : Bytes) :
    ofNatLittle (littleEndian bytes) bytes.length = bytes := by
  induction bytes with
  | nil =>
      rfl
  | cons byte rest induction =>
      have small : byte.toNat < 256 := byte.toNat_lt
      have low : (byte.toNat + 256 * littleEndian rest) % 256 = byte.toNat := by
        omega
      have high : (byte.toNat + 256 * littleEndian rest) / 256 = littleEndian rest := by
        omega
      rw [littleEndian_cons, List.length_cons, ofNatLittle, low, high, induction,
        UInt8.ofNat_toNat]

end Bytes

namespace Solana.Metadata

variable {α β : Type}

/-! ## Readers one after the other -/

/-- A reader takes exactly these bytes and makes a value of them, whatever follows. -/
def Reads
    (reader : Reader α)
    (bytes : Bytes)
    (value : α) :
    Prop :=
  ∀ rest, reader.run (bytes ++ rest) = some (value, rest)

namespace Reads

theorem pure
    (value : α) :
    Reads (Pure.pure value) [] value :=
  fun _ => rfl

theorem bind
    {reader : Reader α}
    {next : α → Reader β}
    {front back : Bytes}
    {first : α}
    {second : β}
    (readsFront : Reads reader front first)
    (readsBack : Reads (next first) back second) :
    Reads (reader >>= next) (front ++ back) second := by
  intro rest
  rw [List.append_assoc, StateT.run_bind, readsFront]
  exact readsBack rest

/-- A value that is only reshaped takes no further bytes. -/
theorem map
    {reader : Reader α}
    {bytes : Bytes}
    {value : α}
    (reads : Reads reader bytes value)
    (reshape : α → β) :
    Reads (reader >>= fun read => Pure.pure (reshape read)) bytes (reshape value) := by
  have reshaped :
      Reads (reader >>= fun read => Pure.pure (reshape read)) (bytes ++ []) (reshape value) :=
    reads.bind (.pure _)
  rwa [List.append_nil] at reshaped

end Reads

/-! ## The pieces of an account -/

theorem reads_readBytes
    (bytes : Bytes) :
    Reads (readBytes bytes.length) bytes bytes := by
  intro rest
  simp [StateT.run, readBytes]

theorem reads_readNumber
    {value count : Nat}
    (fits : value < 256 ^ count) :
    Reads (readNumber count) (Bytes.ofNatLittle value count) value := by
  have number := (reads_readBytes (Bytes.ofNatLittle value count)).map Bytes.littleEndian
  rwa [Bytes.length_ofNatLittle, Bytes.littleEndian_ofNatLittle fits] at number

theorem reads_byte
    (byte : UInt8) :
    Reads (readNumber 1) [byte] byte.toNat := by
  exact (reads_readBytes [byte]).map Bytes.littleEndian

theorem reads_readFlag
    (byte : UInt8) :
    Reads readFlag [byte] (byte != 0) := by
  have flag := (reads_byte byte).map (· != 0)
  have same : (byte.toNat != 0) = (byte != 0) := by
    rw [Bool.eq_iff_iff, bne_iff_ne, bne_iff_ne, ← UInt8.toNat_zero, ne_eq, ne_eq,
      UInt8.toNat_inj]
  rwa [same] at flag

theorem reads_readKey
    {bytes : Bytes}
    (size : bytes.length = 32) :
    Reads readKey bytes (Base58.encode bytes) := by
  have key := (reads_readBytes bytes).map Base58.encode
  rwa [size] at key

/-! ## Texts -/

/-- The characters that are dropped from the ends of a text of an account. -/
def isPadding
    (character : Char) :
    Bool :=
  character = '\x00' || isBlank character

/-- NUL characters behind a text are dropped, and nothing else. -/
theorem stripPadding_append
    {characters : List Char}
    (bare : HasBareEnds isPadding characters)
    (padding : Nat) :
    stripPadding (characters ++ List.replicate padding '\x00') = characters := by
  have noNul : HasBareEnds (· = '\x00') characters := by
    constructor
    · intro character first
      exact (Bool.or_eq_false_iff.mp (bare.first character first)).1
    · intro character last
      exact (Bool.or_eq_false_iff.mp (bare.last character last)).1
  have noBlank : HasBareEnds isBlank characters := by
    constructor
    · intro character first
      exact (Bool.or_eq_false_iff.mp (bare.first character first)).2
    · intro character last
      exact (Bool.or_eq_false_iff.mp (bare.last character last)).2
  have nul : ∀ character ∈ List.replicate padding '\x00', decide (character = '\x00') = true := by
    intro character member
    simp [List.eq_of_mem_replicate member]
  rw [stripPadding, noNul.stripEnds_append nul, trimList, noBlank.stripEnds_eq]

/-- NUL bytes are read as NUL characters. -/
theorem decodeUtf8_replicate_zero
    (count : Nat) :
    decodeUtf8 (List.replicate count 0) = List.replicate count '\x00' := by
  have one : encodeUtf8 ['\x00'] = [0] := by decide
  induction count with
  | zero =>
      rfl
  | succ count induction =>
      have read := decodeUtf8_encodeUtf8_append ['\x00'] (List.replicate count 0)
      rwa [one, induction] at read

/-- A text with its length in front and NUL bytes behind it is read as the text. -/
theorem reads_readText
    {characters : List Char}
    (bare : HasBareEnds isPadding characters)
    {padding : Nat}
    (short : (encodeUtf8 characters).length + padding < 2 ^ 32) :
    Reads readText
      (Bytes.ofNatLittle ((encodeUtf8 characters).length + padding) 4 ++
        (encodeUtf8 characters ++ List.replicate padding 0))
      (ofCharacters characters) := by
  apply (reads_readNumber short).bind
  have content := (reads_readBytes (encodeUtf8 characters ++ List.replicate padding 0)).map
    fun content => ofCharacters (stripPadding (decodeUtf8 content))
  rwa [List.length_append, List.length_replicate, decodeUtf8_encodeUtf8_append,
    decodeUtf8_replicate_zero, stripPadding_append bare] at content

end Solana.Metadata

end Holdings
