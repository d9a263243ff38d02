import Holdings.Amount.Raw
import Holdings.Proofs.Text.Digits
import Holdings.Proofs.Text.Ends
import Mathlib.Data.Bool.AllAny

/-!
# Hexadecimal digits and the numbers they denote

Hexadecimal digits of ASCII denote a number, whatever the case of their letters and however
many zeros they start with.  Every reader of hexadecimal numerals finds this number behind
the mark, and the digits that are written for a number denote it again.
-/

namespace Holdings

namespace Text

/-! ## Digits -/

/-- The hexadecimal digits in lower case. -/
def lowerHexCharacters : List Char :=
  ['0', '1', '2', '3', '4', '5', '6', '7', '8', '9', 'a', 'b', 'c', 'd', 'e', 'f']

/-- The hexadecimal digits of ASCII. -/
def hexCharacters : List Char :=
  lowerHexCharacters ++ ['A', 'B', 'C', 'D', 'E', 'F']

/-- Whether every character is a hexadecimal digit of ASCII. -/
def AreHexDigits
    (characters : List Char) :
    Prop :=
  ∀ character ∈ characters, character ∈ hexCharacters

instance (characters : List Char) : Decidable (AreHexDigits characters) :=
  List.decidableBAll (· ∈ hexCharacters) characters

/-- The value of one hexadecimal digit of ASCII. -/
def hexCharacterValue
    (character : Char) :
    Nat :=
  (asciiHexDigitValue? character).getD 0

/-- The number that hexadecimal digits denote. -/
def hexValue
    (digits : List Char) :
    Nat :=
  ofDigits 16 (digits.map hexCharacterValue)

-- What holds of every digit is checked over the list of digits: to decide it as it is stated
-- may mean to go through all characters.
theorem hexDigitValue?_of_mem :
    ∀ character ∈ hexCharacters,
      hexDigitValue? character = some (hexCharacterValue character) :=
  List.all_iff_forall_prop.1 (by decide)

theorem ne_underscore_of_mem :
    ∀ character ∈ hexCharacters, character ≠ '_' :=
  List.all_iff_forall_prop.1 (by decide)

theorem not_isBlank_of_mem :
    ∀ character ∈ 'x' :: hexCharacters, isBlank character = false :=
  List.all_iff_forall_prop.1 (by decide)

theorem toLower_mem_lowerHexCharacters :
    ∀ character ∈ hexCharacters, character.toLower ∈ lowerHexCharacters :=
  List.all_iff_forall_prop.1 (by decide)

theorem lowerHexCharacters_subset :
    lowerHexCharacters ⊆ hexCharacters :=
  List.subset_append_left _ _

theorem AreHexDigits.of_lower
    {digits : List Char}
    (lower : ∀ character ∈ digits, character ∈ lowerHexCharacters) :
    AreHexDigits digits :=
  fun character member => lowerHexCharacters_subset (lower character member)

/-! ## Digits of a number -/

theorem digitChar_mem :
    ∀ digit < 16, digit.digitChar ∈ hexCharacters := by
  decide

theorem hexCharacterValue_digitChar :
    ∀ digit < 16, hexCharacterValue digit.digitChar = digit := by
  decide

theorem hexDigits_eq
    (value : Nat) :
    hexDigits value =
      if value < 16 then [value.digitChar]
      else hexDigits (value / 16) ++ [(value % 16).digitChar] :=
  Nat.toDigits_eq_if (by decide)

theorem hexDigits_ne_nil
    (value : Nat) :
    hexDigits value ≠ [] :=
  Nat.toDigits_ne_nil

theorem areHexDigits_hexDigits
    (value : Nat) :
    AreHexDigits (hexDigits value) := by
  induction value using Nat.strongRecOn with
  | ind value induction =>
      rw [hexDigits_eq]
      by_cases small : value < 16
      · rw [if_pos small]
        intro character member
        rw [List.mem_singleton.1 member]
        exact digitChar_mem value small
      · rw [if_neg small]
        intro character member
        rcases List.mem_append.1 member with front | last
        · exact induction (value / 16) (by omega) character front
        · rw [List.mem_singleton.1 last]
          exact digitChar_mem _ (Nat.mod_lt _ (by decide))

/-- The digits that are written for a number denote it. -/
theorem hexValue_hexDigits
    (value : Nat) :
    hexValue (hexDigits value) = value := by
  induction value using Nat.strongRecOn with
  | ind value induction =>
      rw [hexDigits_eq]
      by_cases small : value < 16
      · rw [if_pos small, hexValue, List.map_singleton, hexCharacterValue_digitChar value small]
        simp [ofDigits]
      · have front := induction (value / 16) (by omega)
        have last := hexCharacterValue_digitChar (value % 16) (Nat.mod_lt _ (by decide))
        unfold hexValue at front
        rw [if_neg small, hexValue, List.map_append, List.map_singleton, ofDigits_append, front,
          last]
        omega

/-! ## Numerals -/

/-- Digits behind the mark of a hexadecimal numeral. -/
def hexNumeral
    (digits : List Char) :
    String :=
  String.ofList ('0' :: 'x' :: digits)

theorem hexText_eq
    (value : Nat) :
    hexText value = hexNumeral (hexDigits value) :=
  rfl

variable {digits : List Char}

theorem readHexDigits_of_areHexDigits
    (areDigits : AreHexDigits digits)
    (notEmpty : digits ≠ []) :
    readHexDigits digits = some (hexValue digits) := by
  have divided : dividedDigits hexDigitValue? digits = some (digits.map hexCharacterValue) :=
    dividedDigits_map
      (fun character member => hexDigitValue?_of_mem character (areDigits character member))
      (fun character member => ne_underscore_of_mem character (areDigits character member))
      notEmpty
  unfold readHexDigits
  split
  · exact absurd rfl (ne_underscore_of_mem '_' (areDigits '_' (by simp)))
  · dsimp only
    rw [divided]
    rfl

/-- A hexadecimal numeral has no blanks around it, or anywhere else. -/
theorem not_isBlank_of_mem_numeral
    (areDigits : AreHexDigits digits) :
    ∀ character ∈ '0' :: 'x' :: digits, isBlank character = false := by
  intro character member
  apply not_isBlank_of_mem
  rcases List.mem_cons.1 member with rfl | later
  · decide
  · rcases List.mem_cons.1 later with rfl | digit
    · decide
    · exact List.mem_cons_of_mem _ (areDigits character digit)

theorem readHexInteger_hexNumeral
    (areDigits : AreHexDigits digits)
    (notEmpty : digits ≠ []) :
    readHexInteger (hexNumeral digits) = some (hexValue digits : Int) := by
  have noGap : ∀ character ∈ '0' :: 'x' :: digits, isNumeralGap character = false := by
    intro character member
    rw [isNumeralGap, not_isBlank_of_mem_numeral areDigits character member, Bool.false_and]
  have size : readHexSize ('0' :: 'x' :: digits) = some (hexValue digits) :=
    readHexDigits_of_areHexDigits areDigits notEmpty
  rw [readHexInteger, hexNumeral, String.toList_ofList, stripEnds_eq_self noGap]
  simp [size]

end Text

namespace Amount

open Text

/-- A hexadecimal numeral of any length is read as the amount that it denotes. -/
theorem read_hexNumeral
    {digits : List Char}
    (areDigits : AreHexDigits digits)
    (notEmpty : digits ≠ []) :
    read (.text (hexNumeral digits)) = .ok (hexValue digits) := by
  have trimmed : trimList (hexNumeral digits).toList = '0' :: 'x' :: digits := by
    rw [hexNumeral, String.toList_ofList, trimList,
      stripEnds_eq_self (not_isBlank_of_mem_numeral areDigits)]
  have amount : readTrimmed ('0' :: 'x' :: digits) = some (hexValue digits : Int) := by
    simp [readTrimmed, afterHexMark, readHexDigits_of_areHexDigits areDigits notEmpty]
  rw [read_text, ofText, trimmed]
  simp [amount, checkSign]

theorem read_hexText
    (amount : Nat) :
    read (.text (hexText amount)) = .ok amount := by
  rw [hexText_eq, read_hexNumeral (areHexDigits_hexDigits amount) (hexDigits_ne_nil amount),
    hexValue_hexDigits]

end Amount

end Holdings
