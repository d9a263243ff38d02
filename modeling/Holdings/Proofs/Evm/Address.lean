import Holdings.Evm.Address
import Holdings.Proofs.Outcome
import Holdings.Proofs.Text.Hexadecimal

/-!
# Checked addresses

The checked form of an address differs from the address in the case of its letters only.
This rests on the length of the hash that tells the cases: the sponge keeps its 25 words,
so that the hash has 32 bytes and tells more digits than an address has.
-/

namespace Holdings

/-! ## The length of a hash -/

namespace Keccak

@[simp]
theorem length_build
    (word : Nat → Nat → UInt64) :
    (build word).length = 25 := by
  simp [build]

@[simp]
theorem length_mixRows
    (lanes : Lanes) :
    (mixRows lanes).length = 25 :=
  length_build _

@[simp]
theorem length_addConstant
    (constant : UInt64)
    (lanes : Lanes) :
    (addConstant constant lanes).length = lanes.length := by
  cases lanes <;> rfl

/-- Every round leaves 25 words. -/
theorem length_permute
    (lanes : Lanes) :
    (permute lanes).length = 25 := by
  simp only [permute, roundConstants, List.foldl_cons, List.foldl_nil, length_addConstant,
    length_mixRows]

theorem length_absorb
    {lanes : Lanes}
    (whole : lanes.length = 25)
    (blocks : Nat)
    (bytes : Bytes) :
    (absorb lanes blocks bytes).length = 25 := by
  induction blocks generalizing lanes bytes with
  | zero =>
      exact whole
  | succ blocks induction =>
      exact induction (length_permute _) _

theorem length_hash
    (message : Bytes) :
    (hash message).length = 32 := by
  have start : (List.replicate 25 (0 : UInt64)).length = 25 := List.length_replicate
  have whole := length_absorb start ((pad message).length / rate) (pad message)
  unfold hash
  dsimp only
  generalize absorb (List.replicate 25 0) ((pad message).length / rate) (pad message) = lanes
    at whole ⊢
  simp [List.length_flatMap, List.map_const', whole]

end Keccak

theorem Bytes.length_toHexDigits
    (bytes : Bytes) :
    (toHexDigits bytes).length = 2 * bytes.length := by
  simp [toHexDigits, List.length_flatMap, List.map_const', Nat.mul_comm]

/-! ## Spellings of an address -/

namespace Evm

open Text

/-- Two texts that differ in the case of letters only. -/
def SameLetters
    (left right : String) :
    Prop :=
  left.toList.map Char.toLower = right.toList.map Char.toLower

/-- A text is an address: forty hexadecimal digits behind the mark. -/
def IsAddress
    (written : String) :
    Prop :=
  ∃ digits, written = hexNumeral digits ∧ digits.length = 40 ∧ AreHexDigits digits

theorem isHexDigit_of_mem :
    ∀ character ∈ hexCharacters, isHexDigit character = true :=
  List.all_iff_forall_prop.1 (by decide)

theorem toLower_toUpper_of_mem :
    ∀ character ∈ lowerHexCharacters, character.toUpper.toLower = character :=
  List.all_iff_forall_prop.1 (by decide)

theorem toLower_of_mem :
    ∀ character ∈ lowerHexCharacters, character.toLower = character :=
  List.all_iff_forall_prop.1 (by decide)

theorem all_isHexDigit
    {digits : List Char}
    (areDigits : AreHexDigits digits) :
    digits.all isHexDigit = true :=
  List.all_eq_true.2 fun character member =>
    isHexDigit_of_mem character (areDigits character member)

theorem hexDigitsOf?_hexNumeral
    {digits : List Char}
    (areDigits : AreHexDigits digits) :
    hexDigitsOf? (hexNumeral digits) = some (digits.map Char.toLower) := by
  have bare : withoutMark (hexNumeral digits).toList = digits := by
    rw [hexNumeral, String.toList_ofList]
    rfl
  rw [hexDigitsOf?, isHexText, bare, if_pos (all_isHexDigit areDigits)]

theorem map_toLower_mem
    {digits : List Char}
    (areDigits : AreHexDigits digits) :
    ∀ character ∈ digits.map Char.toLower, character ∈ lowerHexCharacters := by
  intro character member
  rcases List.mem_map.1 member with ⟨digit, there, rfl⟩
  exact toLower_mem_lowerHexCharacters digit (areDigits digit there)

/-- The checked digits are the digits again when their letters are lowered. -/
theorem map_toLower_checkDigits
    {digits : List Char}
    (lower : ∀ character ∈ digits, character ∈ lowerHexCharacters)
    (few : digits.length ≤ 64) :
    (checkDigits digits).map Char.toLower = digits := by
  have enough :
      digits.length ≤
        (Bytes.toHexDigits (Keccak.hash (Bytes.ofAscii (String.ofList digits)))).length := by
    rw [Bytes.length_toHexDigits, Keccak.length_hash]
    exact few
  unfold checkDigits
  dsimp only
  generalize Bytes.toHexDigits (Keccak.hash (Bytes.ofAscii (String.ofList digits))) = hashDigits
    at enough ⊢
  clear few
  induction digits generalizing hashDigits with
  | nil =>
      rfl
  | cons first rest induction =>
      cases hashDigits with
      | nil =>
          cases enough
      | cons hashDigit others =>
          have here := lower first List.mem_cons_self
          have later := induction
            (fun character member => lower character (List.mem_cons_of_mem _ member)) others
            (Nat.le_of_succ_le_succ enough)
          rw [List.zipWith_cons_cons, List.map_cons, later]
          split
          · rw [toLower_toUpper_of_mem first here]
          · rw [toLower_of_mem first here]

/-- An address in any spelling is accepted, and its checked form has the same letters. -/
theorem exists_checkedAddress
    {written : String}
    (isAddress : IsAddress written) :
    ∃ checked, checkedAddress (.text written) = .ok checked ∧ SameLetters checked written := by
  rcases isAddress with ⟨digits, rfl, forty, areDigits⟩
  have lower := map_toLower_mem areDigits
  have lowered : toHexText (.text (hexNumeral digits)) =
      .ok (hexNumeral (digits.map Char.toLower)) := by
    rw [toHexText, hexDigitsOf?_hexNumeral areDigits]
    rfl
  have isAddressText : isAddressText (hexNumeral (digits.map Char.toLower)) = true := by
    have all := all_isHexDigit (AreHexDigits.of_lower lower)
    rw [Evm.isAddressText, hexNumeral, String.toList_ofList]
    simp [forty, all]
  refine ⟨hexNumeral (checkDigits (digits.map Char.toLower)), ?_, ?_⟩
  · rw [checkedAddress, lowered, Outcome.ok_bind, if_pos isAddressText, hexNumeral,
      String.toList_ofList]
    rfl
  · have same := map_toLower_checkDigits lower (by rw [List.length_map, forty]; decide)
    rw [SameLetters, hexNumeral, hexNumeral, String.toList_ofList, String.toList_ofList]
    simp [same]

/-- The spelling in which an indexer is told an address. -/
def checkedSpelling
    (written : String) :
    String :=
  (checkedAddress (.text written)).toOption.getD written

theorem checkedAddress_eq
    {written : String}
    (isAddress : IsAddress written) :
    checkedAddress (.text written) = .ok (checkedSpelling written) ∧
      SameLetters (checkedSpelling written) written := by
  rcases exists_checkedAddress isAddress with ⟨checked, accepted, sameLetters⟩
  have same : checkedSpelling written = checked := by
    rw [checkedSpelling, accepted]
    rfl
  rw [same]
  exact ⟨accepted, sameLetters⟩

/-! ## Call data -/

/-- A text is call data: an even number of lower-case hexadecimal digits behind the mark. -/
def IsCallData
    (written : String) :
    Prop :=
  ∃ digits, written = hexNumeral digits ∧ digits.length % 2 = 0 ∧
    ∀ character ∈ digits, character ∈ lowerHexCharacters

/-- Call data is passed on as it is. -/
theorem callData_of_isCallData
    {written : String}
    (isCallData : IsCallData written) :
    callData (.text written) = .ok written := by
  rcases isCallData with ⟨digits, rfl, even, lower⟩
  have same : digits.map Char.toLower = digits := by
    rw [List.map_congr_left fun character member => toLower_of_mem character
      (lower character member), List.map_id']
  rw [callData]
  simp only [hexDigitsOf?_hexNumeral (AreHexDigits.of_lower lower), same, if_pos even]
  rfl

end Evm

end Holdings
