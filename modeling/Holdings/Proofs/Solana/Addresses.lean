import Holdings.Proofs.Codec.Base58
import Holdings.Proofs.Outcome
import Holdings.Proofs.Solana.StoredMetadata
import Holdings.Solana.Address

/-!
# Addresses of mints

The text of an address is read back as the address, so every mint of 32 bytes has
the metadata account that the metadata program derives from these bytes.
-/

namespace Holdings.Solana

open Text

/-! ## Texts of ASCII characters -/

section Ascii

variable {characters : List Char}

theorem covers_of_ascii
    (ascii : ∀ character ∈ characters, character.toNat < 128) :
    Charset.utf8.covers (String.ofList characters) = true := by
  have noHalf : ∀ point ∈ characters.map Char.toNat, isHalf point = false := by
    intro point member
    rcases List.mem_map.1 member with ⟨character, inside, rfl⟩
    have low := ascii character inside
    rw [isHalf, Bool.and_eq_false_iff, decide_eq_false_iff_not]
    omega
  rw [Charset.covers, points_ofList_of_ascii ascii, Bool.not_eq_true', List.any_eq_false]
  intro point member
  rw [Charset.lacks, noHalf point member]
  decide

theorem utf8ByteSize_of_ascii
    (ascii : ∀ character ∈ characters, character.toNat < 128) :
    (String.ofList characters).utf8ByteSize = characters.length := by
  induction characters with
  | nil =>
      rfl
  | cons first rest induction =>
      have low : first.toNat < 128 := ascii first List.mem_cons_self
      have one : first.utf8Size = 1 := by
        rw [Char.utf8Size_eq_one_iff, UInt32.le_iff_toNat_le]
        exact Nat.le_of_lt_succ low
      have later := induction fun character member =>
        ascii character (List.mem_cons_of_mem _ member)
      rw [String.ofList_cons, String.utf8ByteSize_append, String.utf8ByteSize_singleton, one, later,
        List.length_cons, Nat.add_comm]

end Ascii

/-! ## Texts of addresses -/

namespace Address

/-- The text of an address is read back. -/
theorem readAddress_text
    (address : Address) :
    readAddress address.text = .ok address.bytes := by
  rcases Base58.exists_digits address.size with ⟨digits, written, few, ascii⟩
  have covered := covers_of_ascii ascii
  have short := utf8ByteSize_of_ascii ascii
  have read := Base58.decode?_encode address.bytes
  rw [readAddress, text, read, written, covered, short, if_neg (by decide), if_neg (by
    unfold addressTextLimit
    omega)]
  exact if_pos address.size

/-- The address that the metadata program derives for a mint, if there is one. -/
def metadataAccount?
    (mint : Address) :
    Option Bytes := do
  let program ← (readAddress metadataProgram).toOption
  derivedAddress [Bytes.ofAscii "metadata", program, mint.bytes] program

theorem metadataAddress_text
    {mint : Address}
    {account : String} :
    metadataAddress mint.text = .ok account ↔
      ∃ bytes, mint.metadataAccount? = some bytes ∧ account = Base58.encode bytes := by
  rw [metadataAddress, metadataAccount?]
  generalize readAddress metadataProgram = known
  cases known with
  | error fault =>
      constructor
      · intro derived
        cases derived
      · rintro ⟨bytes, derived, -⟩
        cases derived
  | ok program =>
      rw [Outcome.ok_bind, mint.readAddress_text, Outcome.ok_bind, Except.toOption,
        Option.bind_eq_bind, Option.bind_some]
      generalize derivedAddress [Bytes.ofAscii "metadata", program, mint.bytes] program = derived
      cases derived with
      | none =>
          constructor
          · intro derived
            cases derived
          · rintro ⟨bytes, derived, -⟩
            cases derived
      | some bytes =>
          constructor
          · intro derived
            cases derived
            exact ⟨bytes, rfl, rfl⟩
          · rintro ⟨found, derived, rfl⟩
            cases derived
            rfl

end Address

end Holdings.Solana
