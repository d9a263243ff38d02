import Holdings.Proofs.Number.Spelling
import Holdings.Proofs.Text.Digits
import Mathlib.Algebra.Order.Field.Power
import Mathlib.Data.Rat.Cast.CharZero
import Mathlib.Tactic.FieldSimp
import Mathlib.Tactic.Linarith
import Mathlib.Tactic.Positivity
import Mathlib.Tactic.Ring

/-!
# What numerals denote

A numeral denotes a rational number.  Its digits come without zeros in front, so that they are as
many as the digits of the integer that they form.
-/

namespace Holdings

open Holdings.Text

/-! ## Digits of every script -/

theorem Text.digitValue?_lt
    {character : Char}
    {digit : Nat}
    (isDigit : digitValue? character = some digit) :
    digit < 10 := by
  rcases Option.map_eq_some_iff.1 isDigit with ⟨first, found, rfl⟩
  have within := List.find?_some found
  simp only [Bool.and_eq_true, decide_eq_true_eq] at within
  omega

theorem Text.ofDigits_cons
    (base first : Nat)
    (rest : List Nat) :
    ofDigits base (first :: rest) = first * base ^ rest.length + ofDigits base rest := by
  induction rest using List.reverseRecOn with
  | nil =>
      simp [ofDigits]
  | append_singleton front last induction =>
      rw [← List.cons_append, ofDigits_append, ofDigits_append, induction, List.length_append,
        List.length_singleton, pow_succ]
      ring

theorem Text.ofDigits_lt
    {digits : List Nat}
    (small : ∀ digit ∈ digits, digit < 10) :
    ofDigits 10 digits < 10 ^ digits.length := by
  induction digits with
  | nil =>
      simp
  | cons first rest induction =>
      have firstSmall : first < 10 := small first List.mem_cons_self
      have restSmall := induction fun digit member => small digit (List.mem_cons_of_mem _ member)
      rw [ofDigits_cons, List.length_cons, pow_succ]
      calc
        first * 10 ^ rest.length + ofDigits 10 rest
            < first * 10 ^ rest.length + 10 ^ rest.length := by
          exact Nat.add_lt_add_left restSmall _
        _ = (first + 1) * 10 ^ rest.length := by
          ring
        _ ≤ 10 * 10 ^ rest.length := by
          exact Nat.mul_le_mul_right _ firstSmall
        _ = 10 ^ rest.length * 10 := by
          ring

namespace Numeral

/-! ## Digits without zeros in front -/

/-- The digits of a numeral are single ones, and the first of them is no zero. -/
structure HasPlainDigits
    (numeral : Numeral) :
    Prop where
  small : ∀ digit ∈ numeral.digits, digit < 10
  first_ne_zero : ∀ digit ∈ numeral.digits.head?, digit ≠ 0

variable {numeral : Numeral}

theorem small_of_spellsDigits
    {characters : List Char}
    {digits : List Nat}
    (spelled : SpellsDigits characters digits) :
    ∀ digit ∈ digits, digit < 10 := by
  intro digit member
  induction spelled with
  | nil =>
      cases member
  | cons here _ induction =>
      rcases List.mem_cons.mp member with rfl | later
      · exact digitValue?_lt here
      · exact induction later

theorem small_of_spellsPlaces
    {characters : List Char}
    {whole places : List Nat}
    (placed : SpellsPlaces characters whole places) :
    ∀ digit ∈ whole ++ places, digit < 10 := by
  intro digit member
  cases placed with
  | whole spelled =>
      rw [List.append_nil] at member
      exact small_of_spellsDigits spelled digit member
  | pointed inFront behind =>
      rcases List.mem_append.mp member with inWhole | inPlaces
      · exact small_of_spellsDigits inFront digit inWhole
      · exact small_of_spellsDigits behind digit inPlaces

theorem hasPlainDigits_of_spells
    {characters : List Char}
    (spelled : Spells characters numeral) :
    numeral.HasPlainDigits := by
  cases spelled with
  | @numeral _ _ _ _ whole places _ signed placed someDigit scaled =>
      constructor
      · intro digit member
        exact small_of_spellsPlaces placed digit ((List.dropWhile_sublist _).mem member)
      · intro digit isFirst
        have dropped := List.head?_dropWhile_not (· = 0) (whole ++ places)
        rw [Option.mem_def.mp isFirst] at dropped
        simpa using dropped

theorem IsSpelledBy.hasPlainDigits
    {text : String}
    (spelled : numeral.IsSpelledBy text) :
    numeral.HasPlainDigits :=
  hasPlainDigits_of_spells spelled.spells

theorem length_digits
    (notZero : numeral.isZero = false) :
    numeral.digits.length = numeral.length := by
  have notEmpty : numeral.digits ≠ [] := by
    simpa [isZero] using notZero
  have positive := List.length_pos_iff.mpr notEmpty
  rw [length]
  omega

theorem HasPlainDigits.coefficient_lt
    (plain : numeral.HasPlainDigits)
    (notZero : numeral.isZero = false) :
    numeral.coefficient < 10 ^ numeral.length := by
  rw [← length_digits notZero]
  exact ofDigits_lt plain.small

theorem HasPlainDigits.pow_le_coefficient
    (plain : numeral.HasPlainDigits)
    (notZero : numeral.isZero = false) :
    10 ^ (numeral.length - 1) ≤ numeral.coefficient := by
  rw [← length_digits notZero, coefficient]
  cases digits : numeral.digits with
  | nil =>
      simp [isZero, digits] at notZero
  | cons first rest =>
      have positive : 0 < first := Nat.pos_of_ne_zero (plain.first_ne_zero first (by simp [digits]))
      rw [ofDigits_cons, List.length_cons, Nat.add_sub_cancel]
      calc
        10 ^ rest.length ≤ first * 10 ^ rest.length := by
          exact Nat.le_mul_of_pos_left _ positive
        _ ≤ first * 10 ^ rest.length + ofDigits 10 rest := by
          exact Nat.le_add_right _ _

theorem coefficient_of_isZero
    (isZero : numeral.isZero = true) :
    numeral.coefficient = 0 := by
  have noDigits : numeral.digits = [] := by
    simpa [Numeral.isZero] using isZero
  rw [coefficient, noDigits, ofDigits_nil]

/-- Digits without zeros in front are as many as those of the integer that they form. -/
theorem HasPlainDigits.digitCount_coefficient
    (plain : numeral.HasPlainDigits) :
    digitCount numeral.coefficient = numeral.length := by
  cases zero : numeral.isZero with
  | true =>
      have noDigits : numeral.digits = [] := by
        simpa [isZero] using zero
      rw [coefficient_of_isZero zero, length, noDigits]
      rfl
  | false =>
      have positive : 0 < numeral.length := Nat.le_max_left _ _
      have someDigit := digitCount_pos numeral.coefficient
      have atMost := (digitCount_le_iff positive).2 (plain.coefficient_lt zero)
      have large := plain.pow_le_coefficient zero
      by_contra other
      have small : numeral.coefficient < 10 ^ (numeral.length - 1) :=
        (digitCount_le_iff (by omega)).1 (by omega)
      omega

/-! ## Magnitudes -/

/-- The number that a numeral denotes apart from its sign. -/
def magnitude
    (numeral : Numeral) :
    ℚ :=
  numeral.coefficient * 10 ^ numeral.exponent

/-- The number that a numeral denotes. -/
def value
    (numeral : Numeral) :
    ℚ :=
  if numeral.negative then -numeral.magnitude else numeral.magnitude

theorem magnitude_of_isZero
    (isZero : numeral.isZero = true) :
    numeral.magnitude = 0 := by
  rw [magnitude, coefficient_of_isZero isZero, Nat.cast_zero, zero_mul]

theorem HasPlainDigits.magnitude_pos
    (plain : numeral.HasPlainDigits)
    (notZero : numeral.isZero = false) :
    0 < numeral.magnitude := by
  have positive : 0 < numeral.coefficient :=
    Nat.lt_of_lt_of_le (by positivity) (plain.pow_le_coefficient notZero)
  have castPositive : (0 : ℚ) < numeral.coefficient := by
    exact_mod_cast positive
  rw [magnitude]
  positivity

theorem magnitude_nonneg
    (numeral : Numeral) :
    0 ≤ numeral.magnitude := by
  rw [magnitude]
  positivity

theorem HasPlainDigits.value_nonneg_iff
    (plain : numeral.HasPlainDigits) :
    0 ≤ numeral.value ↔ (numeral.negative && !numeral.isZero) = false := by
  rw [value]
  cases numeral.negative with
  | false =>
      simpa using numeral.magnitude_nonneg
  | true =>
      cases zero : numeral.isZero with
      | true =>
          simp [magnitude_of_isZero zero]
      | false =>
          simpa using plain.magnitude_pos zero

/-- A numeral that denotes no negative number denotes its magnitude. -/
theorem value_eq_magnitude
    (nonneg : 0 ≤ numeral.value) :
    numeral.value = numeral.magnitude := by
  have positive := numeral.magnitude_nonneg
  rw [value] at nonneg ⊢
  split
  · next negative =>
    rw [if_pos negative] at nonneg
    linarith
  · rfl

end Numeral

end Holdings
