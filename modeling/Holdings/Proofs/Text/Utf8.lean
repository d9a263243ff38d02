import Holdings.Text.Utf8
import Mathlib.Data.List.Forall2

/-!
# Reading what is written in UTF-8

Bytes that keep the bounds of a character that has begun complete it, and what
follows them is read from between two characters.  The bytes that UTF-8 writes
for a character begin it with the right bounds and complete it to the character
itself, so a written text is read back, whatever bytes follow it.
-/

namespace Holdings.Text

/-- The bits of a character after bytes that continue it. -/
def continuedBits
    (bits : Nat)
    (bytes : List UInt8) :
    Nat :=
  bytes.foldl (fun known byte => known * 64 + (byte.toNat - 0x80)) bits

@[simp]
theorem continuedBits_nil
    (bits : Nat) :
    continuedBits bits [] = bits :=
  rfl

/-- Bytes that keep the bounds of an open character complete it. -/
theorem decodeFrom_open
    (bits : Nat)
    {needed : List ByteBounds}
    {bytes : List UInt8}
    (isOpen : needed ≠ [])
    (keeps : List.Forall₂ (fun bounds byte => ByteBounds.hold bounds byte = true) needed bytes)
    (rest : List UInt8) :
    decodeFrom (some ⟨bits, needed⟩) (bytes ++ rest) =
      Char.ofNat (continuedBits bits bytes) :: decodeFrom none rest := by
  induction keeps generalizing bits with
  | nil =>
      exact absurd rfl isOpen
  | @cons bounds byte later following holds keepsLater induction =>
      cases keepsLater with
      | nil =>
          simp [decodeFrom, holds, continuedBits]
      | cons holdsNext keepsRest =>
          have continued := induction (bits * 64 + (byte.toNat - 0x80)) (by simp)
          simpa [decodeFrom, holds, continuedBits] using continued

/-- A byte that opens a character and bytes that complete it are read as the character. -/
theorem decodeFrom_lead
    {lead : UInt8}
    {bits : Nat}
    {needed : List ByteBounds}
    {bytes : List UInt8}
    (opens : readLead lead = .opens ⟨bits, needed⟩)
    (isOpen : needed ≠ [])
    (keeps : List.Forall₂ (fun bounds byte => ByteBounds.hold bounds byte = true) needed bytes)
    (rest : List UInt8) :
    decodeFrom none (lead :: (bytes ++ rest)) =
      Char.ofNat (continuedBits bits bytes) :: decodeFrom none rest := by
  rw [← decodeFrom_open bits isOpen keeps rest]
  simp [decodeFrom, opens]

theorem hold_iff
    (bounds : ByteBounds)
    {value : Nat}
    (fits : value < 256) :
    bounds.hold (UInt8.ofNat value) = true ↔ bounds.low ≤ value ∧ value ≤ bounds.high := by
  simp [ByteBounds.hold, UInt8.toNat_ofNat_of_lt' fits]

/-- Six bits of a number stand in an ordinary byte that continues a character. -/
theorem tailBounds_hold
    (value : Nat) :
    tailBounds.hold (UInt8.ofNat (value % 64 + 128)) = true := by
  rw [hold_iff _ (by omega)]
  simp only [tailBounds]
  omega

/-- An ordinary byte that continues a character adds its six bits. -/
theorem continuedBits_cons_tail
    (bits value : Nat)
    (bytes : List UInt8) :
    continuedBits bits (UInt8.ofNat (value % 64 + 128) :: bytes) =
      continuedBits (bits * 64 + value % 64) bytes := by
  have byte : (UInt8.ofNat (value % 64 + 128)).toNat = value % 64 + 128 :=
    UInt8.toNat_ofNat_of_lt' (show value % 64 + 128 < 256 by omega)
  simp only [continuedBits, List.foldl_cons, byte, Nat.add_sub_cancel]

theorem decodeFrom_twoBytes
    {value : Nat}
    (atLeast : 0x80 ≤ value)
    (below : value < 0x800)
    (rest : List UInt8) :
    decodeFrom none
        ([UInt8.ofNat (value / 64 % 32 + 192), UInt8.ofNat (value % 64 + 128)] ++ rest) =
      Char.ofNat value :: decodeFrom none rest := by
  have lead : readLead (UInt8.ofNat (value / 64 % 32 + 192)) =
      .opens ⟨value / 64, [tailBounds]⟩ := by
    have bits : value / 64 % 32 + 192 - 0xC0 = value / 64 := by omega
    simp only [readLead, UInt8.toNat_ofNat_of_lt' (show value / 64 % 32 + 192 < 256 by omega)]
    rw [if_neg (by omega), if_neg (by omega), if_pos (by omega), bits]
  have whole : value / 64 * 64 + value % 64 = value := Nat.div_add_mod' value 64
  have read := decodeFrom_lead lead (by simp) (.cons (tailBounds_hold value) .nil) rest
  rwa [continuedBits_cons_tail, continuedBits_nil, whole] at read

theorem decodeFrom_threeBytes
    {value : Nat}
    (atLeast : 0x800 ≤ value)
    (below : value < 0x10000)
    (noHalf : value < 0xD800 ∨ 0xDFFF < value)
    (rest : List UInt8) :
    decodeFrom none
        ([UInt8.ofNat (value / 4096 % 16 + 224), UInt8.ofNat (value / 64 % 64 + 128),
          UInt8.ofNat (value % 64 + 128)] ++ rest) =
      Char.ofNat value :: decodeFrom none rest := by
  -- After E0 and ED the second byte has bounds of its own; everywhere else they are ordinary.
  obtain ⟨second, lead, holds⟩ : ∃ second,
      readLead (UInt8.ofNat (value / 4096 % 16 + 224)) =
          .opens ⟨value / 4096, [second, tailBounds]⟩ ∧
        second.hold (UInt8.ofNat (value / 64 % 64 + 128)) = true := by
    have bits : value / 4096 % 16 + 224 - 0xE0 = value / 4096 := by omega
    simp only [readLead, UInt8.toNat_ofNat_of_lt' (show value / 4096 % 16 + 224 < 256 by omega)]
    rw [if_neg (by omega), if_neg (by omega), if_neg (by omega)]
    by_cases first : value / 4096 = 0
    · refine ⟨⟨0xA0, 0xBF⟩, ?_, ?_⟩
      · rw [if_pos (by omega), first]
      · rw [hold_iff _ (by omega)]
        dsimp only
        omega
    · rw [if_neg (by omega)]
      by_cases halves : value / 4096 = 0xD
      · refine ⟨⟨0x80, 0x9F⟩, ?_, ?_⟩
        · rw [if_pos (by omega), halves]
        · rw [hold_iff _ (by omega)]
          dsimp only
          omega
      · refine ⟨tailBounds, ?_, tailBounds_hold _⟩
        rw [if_neg (by omega), if_pos (by omega), bits]
  have whole : (value / 4096 * 64 + value / 64 % 64) * 64 + value % 64 = value := by omega
  have read := decodeFrom_lead lead (by simp)
    (.cons holds (.cons (tailBounds_hold value) .nil)) rest
  rwa [continuedBits_cons_tail, continuedBits_cons_tail, continuedBits_nil, whole] at read

theorem decodeFrom_fourBytes
    {value : Nat}
    (atLeast : 0x10000 ≤ value)
    (below : value < 0x110000)
    (rest : List UInt8) :
    decodeFrom none
        ([UInt8.ofNat (value / 262144 % 8 + 240), UInt8.ofNat (value / 4096 % 64 + 128),
          UInt8.ofNat (value / 64 % 64 + 128), UInt8.ofNat (value % 64 + 128)] ++ rest) =
      Char.ofNat value :: decodeFrom none rest := by
  -- After F0 and F4 the second byte has bounds of its own; everywhere else they are ordinary.
  obtain ⟨second, lead, holds⟩ : ∃ second,
      readLead (UInt8.ofNat (value / 262144 % 8 + 240)) =
          .opens ⟨value / 262144, [second, tailBounds, tailBounds]⟩ ∧
        second.hold (UInt8.ofNat (value / 4096 % 64 + 128)) = true := by
    have bits : value / 262144 % 8 + 240 - 0xF0 = value / 262144 := by omega
    simp only [readLead, UInt8.toNat_ofNat_of_lt' (show value / 262144 % 8 + 240 < 256 by omega)]
    rw [if_neg (by omega), if_neg (by omega), if_neg (by omega), if_neg (by omega),
      if_neg (by omega), if_neg (by omega)]
    by_cases first : value / 262144 = 0
    · refine ⟨⟨0x90, 0xBF⟩, ?_, ?_⟩
      · rw [if_pos (by omega), first]
      · rw [hold_iff _ (by omega)]
        dsimp only
        omega
    · rw [if_neg (by omega)]
      by_cases last : value / 262144 = 4
      · refine ⟨⟨0x80, 0x8F⟩, ?_, ?_⟩
        · rw [if_neg (by omega), if_pos (by omega), last]
        · rw [hold_iff _ (by omega)]
          dsimp only
          omega
      · refine ⟨tailBounds, ?_, tailBounds_hold _⟩
        rw [if_pos (by omega), bits]
  have whole :
      ((value / 262144 * 64 + value / 4096 % 64) * 64 + value / 64 % 64) * 64 + value % 64 =
        value := by
    omega
  have read := decodeFrom_lead lead (by simp)
    (.cons holds (.cons (tailBounds_hold (value / 64)) (.cons (tailBounds_hold value) .nil))) rest
  rwa [continuedBits_cons_tail, continuedBits_cons_tail, continuedBits_cons_tail,
    continuedBits_nil, whole] at read

/-- A code point that is a character lies in no gap of the code space. -/
theorem toNat_bounds
    (character : Char) :
    character.toNat < 0xD800 ∨ 0xDFFF < character.toNat ∧ character.toNat < 0x110000 :=
  character.valid

/-- What is written for a character is read as the character. -/
theorem decodeFrom_utf8EncodeChar
    (character : Char)
    (rest : List UInt8) :
    decodeFrom none (String.utf8EncodeChar character ++ rest) =
      character :: decodeFrom none rest := by
  have itself : Char.ofNat character.toNat = character := Char.ofNat_toNat character
  have bounds := toNat_bounds character
  have value : character.val.toNat = character.toNat := rfl
  rw [String.utf8EncodeChar, value]
  split
  · next one =>
    have lead : readLead (UInt8.ofNat character.toNat) = .whole character := by
      simp only [readLead, UInt8.toNat_ofNat_of_lt' (show character.toNat < 256 by omega)]
      rw [if_pos (by omega), itself]
    simp only [List.cons_append, List.nil_append, decodeFrom, lead]
  · split
    · rw [decodeFrom_twoBytes (by omega) (by omega), itself]
    · split
      · rw [decodeFrom_threeBytes (by omega) (by omega) (by omega), itself]
      · rw [decodeFrom_fourBytes (by omega) (by omega), itself]

/-- The bytes of a text in UTF-8. -/
def encodeUtf8
    (characters : List Char) :
    List UInt8 :=
  characters.flatMap String.utf8EncodeChar

/-- A written text is read back, and what follows it is read on its own. -/
theorem decodeUtf8_encodeUtf8_append
    (characters : List Char)
    (rest : List UInt8) :
    decodeUtf8 (encodeUtf8 characters ++ rest) = characters ++ decodeUtf8 rest := by
  induction characters with
  | nil =>
      rfl
  | cons character later induction =>
      unfold decodeUtf8 encodeUtf8 at induction ⊢
      rw [List.flatMap_cons, List.append_assoc, decodeFrom_utf8EncodeChar, induction,
        List.cons_append]

end Holdings.Text
