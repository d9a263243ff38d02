import Holdings.Amount.Context
import Holdings.Proofs.Outcome
import Holdings.Proofs.Text.Digits
import Mathlib.Algebra.Order.Field.Power
import Mathlib.Data.Rat.Cast.CharZero
import Mathlib.Tactic.Linarith
import Mathlib.Tactic.Positivity
import Mathlib.Tactic.Ring

/-!
# What decimal arithmetic comes to

A decimal number denotes a rational number.  Rounding is exact where a context
holds the number: its digits fit the precision, and its exponents are in range.
A number that is too large for every exponent is a fault.  One that has digits
below the smallest exponent is rounded there, and becomes zero exactly when it is
at most half of what the smallest exponent stands for.

Whether a number is an integer is told by its value, whatever its exponent is.
-/

namespace Holdings.Amount

open Holdings.Text
open Outcome

/-! ## Values -/

namespace Decimal

variable {number : Decimal}

/-- The rational number that is denoted. -/
def value
    (number : Decimal) :
    ℚ :=
  number.coefficient * 10 ^ number.exponent

theorem length_pos
    (number : Decimal) :
    0 < number.length :=
  digitCount_pos number.coefficient

theorem coefficient_lt
    (number : Decimal) :
    number.coefficient < 10 ^ number.length :=
  lt_pow_digitCount number.coefficient

theorem pow_le_coefficient
    (notZero : number.coefficient ≠ 0) :
    10 ^ (number.length - 1) ≤ number.coefficient := by
  have positive := number.length_pos
  by_contra small
  by_cases single : number.length = 1
  · rw [single] at small
    exact notZero (Nat.lt_one_iff.1 (Nat.not_le.1 small))
  · have fewer : number.length ≤ number.length - 1 :=
      (digitCount_le_iff (by omega)).2 (Nat.not_le.1 small)
    omega

theorem value_of_isZero
    (isZero : number.coefficient = 0) :
    number.value = ((0 : Nat) : ℚ) := by
  rw [value, isZero, Nat.cast_zero, zero_mul]

theorem value_pos
    (notZero : number.coefficient ≠ 0) :
    0 < number.value := by
  have positive : (0 : ℚ) < number.coefficient := by
    exact_mod_cast Nat.pos_of_ne_zero notZero
  rw [value]
  positivity

theorem pow_exponent_le
    (notZero : number.coefficient ≠ 0) :
    10 ^ number.exponent ≤ number.value := by
  have one : (1 : ℚ) ≤ number.coefficient := by
    exact_mod_cast Nat.one_le_iff_ne_zero.2 notZero
  exact le_mul_of_one_le_left (by positivity) one

/-- A number lies below a power of ten exactly when its first digit does. -/
theorem value_lt_iff
    (notZero : number.coefficient ≠ 0)
    (power : ℤ) :
    number.value < 10 ^ power ↔ number.exponent + number.length ≤ power := by
  have ten : (10 : ℚ) ≠ 0 := by norm_num
  have positive : (0 : ℚ) < 10 ^ number.exponent := by positivity
  constructor
  · intro below
    by_contra notYet
    have reaches : power ≤ ((number.length - 1 : Nat) : ℤ) + number.exponent := by
      have someDigit := number.length_pos
      omega
    have large : ((10 ^ (number.length - 1) : Nat) : ℚ) ≤ number.coefficient := by
      exact_mod_cast pow_le_coefficient notZero
    have atLeast : (10 : ℚ) ^ power ≤ number.value := by
      calc
        (10 : ℚ) ^ power ≤ 10 ^ (((number.length - 1 : Nat) : ℤ) + number.exponent) := by
          exact zpow_le_zpow_right₀ (by norm_num) reaches
        _ = ((10 ^ (number.length - 1) : Nat) : ℚ) * 10 ^ number.exponent := by
          rw [zpow_add₀ ten, zpow_natCast, Nat.cast_pow, Nat.cast_ofNat]
        _ ≤ number.value := by
          exact mul_le_mul_of_nonneg_right large positive.le
    exact absurd below (not_lt.mpr atLeast)
  · intro reaches
    have small : (number.coefficient : ℚ) < ((10 ^ number.length : Nat) : ℚ) := by
      exact_mod_cast number.coefficient_lt
    calc
      number.value < ((10 ^ number.length : Nat) : ℚ) * 10 ^ number.exponent := by
        exact mul_lt_mul_of_pos_right small positive
      _ = 10 ^ (number.exponent + number.length) := by
        rw [zpow_add₀ ten, zpow_natCast, Nat.cast_pow, Nat.cast_ofNat, mul_comm]
      _ ≤ 10 ^ power := by
        exact zpow_le_zpow_right₀ (by norm_num) reaches

/-- With an exponent that is not negative, a number is an integer. -/
theorem value_of_nonneg
    (natural : 0 ≤ number.exponent) :
    number.value = ((number.coefficient * 10 ^ number.exponent.toNat : Nat) : ℚ) := by
  have exponent : ((number.exponent.toNat : Nat) : ℤ) = number.exponent :=
    Int.toNat_of_nonneg natural
  rw [value, Nat.cast_mul, Nat.cast_pow, Nat.cast_ofNat, ← zpow_natCast, exponent]

/-- With a negative exponent, it is one when the digits behind the point are zeros. -/
theorem value_eq_iff_of_neg
    (negative : number.exponent < 0)
    (amount : Nat) :
    number.value = amount ↔
      number.coefficient = amount * 10 ^ (-number.exponent).toNat := by
  have exponent : (((-number.exponent).toNat : Nat) : ℤ) = -number.exponent :=
    Int.toNat_of_nonneg (by omega)
  have cast : (((10 ^ (-number.exponent).toNat : Nat) : ℚ)) = (10 ^ number.exponent)⁻¹ := by
    rw [Nat.cast_pow, Nat.cast_ofNat, ← zpow_natCast, exponent, zpow_neg]
  have positive : (10 : ℚ) ^ number.exponent ≠ 0 := by positivity
  rw [value, ← Nat.cast_inj (R := ℚ), Nat.cast_mul, cast, ← div_eq_mul_inv, eq_div_iff positive]

/-- The integer that is found is the one that a number denotes. -/
theorem integer?_eq_some_iff
    {amount : Nat} :
    number.integer? = some amount ↔ number.value = amount := by
  unfold integer?
  by_cases isZero : number.coefficient = 0
  · rw [if_pos isZero, value_of_isZero isZero, Option.some_inj, Nat.cast_inj]
  · rw [if_neg isZero]
    by_cases natural : 0 ≤ number.exponent
    · rw [if_pos natural, value_of_nonneg natural, Option.some_inj, Nat.cast_inj]
      rfl
    · rw [if_neg natural, value_eq_iff_of_neg (Int.not_le.1 natural)]
      by_cases behindPoint : (number.length : ℤ) ≤ -number.exponent
      · -- Even the first digit stands behind the point, so the number is less than one.
        have belowOne : number.value < 10 ^ (0 : ℤ) := (value_lt_iff isZero 0).2 (by omega)
        have aboveZero := value_pos isZero
        rw [if_pos behindPoint]
        refine iff_of_false nofun ?_
        intro whole
        rw [(value_eq_iff_of_neg (Int.not_le.1 natural) amount).2 whole] at belowOne aboveZero
        rw [zpow_zero, Nat.cast_lt_one] at belowOne
        rw [belowOne, Nat.cast_zero] at aboveZero
        exact absurd aboveZero (lt_irrefl 0)
      · have positive : 0 < 10 ^ (-number.exponent).toNat := by positivity
        rw [if_neg behindPoint, Nat.pow_eq]
        dsimp only
        split
        · next even =>
          rw [Option.some_inj]
          constructor
          · rintro rfl
            exact (Nat.div_mul_cancel (Nat.dvd_of_mod_eq_zero even)).symm
          · intro whole
            rw [whole, Nat.mul_div_cancel _ positive]
        · next uneven =>
          refine iff_of_false nofun ?_
          intro whole
          rw [whole, Nat.mul_mod_left] at uneven
          exact uneven rfl

theorem integer?_eq_none_iff :
    number.integer? = none ↔ ∀ amount : Nat, number.value ≠ amount := by
  rw [Option.eq_none_iff_forall_ne_some]
  exact forall_congr' fun amount => not_congr integer?_eq_some_iff

/-- A number that is too large for every exponent is a fault, and any other is itself. -/
theorem bounded_eq
    (notZero : number.coefficient ≠ 0) :
    (10 ^ (scaledExponentCap + 1) ≤ number.value → number.bounded = .error .exponentOverflow) ∧
      (number.value < 10 ^ (scaledExponentCap + 1) → number.bounded = .ok number) := by
  have below := value_lt_iff notZero (scaledExponentCap + 1)
  constructor
  · intro beyond
    have large := (not_congr below).1 (not_lt.2 beyond)
    exact if_pos (by omega)
  · intro within
    have small := below.1 within
    exact if_neg (by omega)

end Decimal

/-! ## Dropping digits -/

theorem roundDigits_le
    (coefficient count : Nat) :
    roundDigits coefficient count ≤ coefficient := by
  have split := Nat.div_add_mod' coefficient (10 ^ count)
  have grows : coefficient / 10 ^ count ≤ coefficient / 10 ^ count * 10 ^ count :=
    Nat.le_mul_of_pos_right _ (by positivity)
  have unit : 0 < 10 ^ count := by positivity
  simp only [roundDigits, Nat.pow_eq, Bool.or_eq_true, Bool.and_eq_true, decide_eq_true_eq]
  split
  · exact Nat.zero_le _
  · split <;> omega

/-- What is dropped altogether is at most half of the place that is kept. -/
theorem roundDigits_eq_zero_iff
    (coefficient count : Nat) :
    roundDigits coefficient count = 0 ↔ 2 * coefficient ≤ 10 ^ count := by
  have unit : 0 < 10 ^ count := by positivity
  simp only [roundDigits, Nat.pow_eq, Bool.or_eq_true, Bool.and_eq_true, decide_eq_true_eq]
  by_cases few : digitCount coefficient < count
  · -- All digits stand below the place by one at least.
    have someDigit := digitCount_pos coefficient
    have small : coefficient < 10 ^ (count - 1) := (digitCount_le_iff (by omega)).1 (by omega)
    have tenth : 10 ^ count = 10 ^ (count - 1) * 10 := by
      rw [← pow_succ, Nat.sub_add_cancel (by omega)]
    rw [if_pos few]
    exact iff_of_true rfl (by omega)
  · rw [if_neg few]
    by_cases below : coefficient < 10 ^ count
    · rw [Nat.div_eq_of_lt below, Nat.mod_eq_of_lt below]
      split <;> omega
    · have kept : 0 < coefficient / 10 ^ count :=
        Nat.div_pos (Nat.not_lt.1 below) unit
      split <;> omega

/-! ## Rounding -/

namespace Context

variable {context : Context} {number : Decimal}

/-- A number whose digits fit the precision and whose exponents are in range. -/
structure Holds
    (context : Context)
    (number : Decimal) :
    Prop where
  fits : number.length ≤ context.precision
  bounded : number.exponent + number.length - 1 ≤ scaledExponentCap
  placed : context.smallestExponent ≤ number.exponent

/-- What a context holds is not rounded. -/
theorem Holds.round
    (holds : context.Holds number) :
    context.round number = .ok number := by
  have someDigit := number.length_pos
  have fits := holds.fits
  have bounded := holds.bounded
  have placed := holds.placed
  unfold Context.round
  split
  · next isZero =>
    have exponent :
        max context.smallestExponent (min number.exponent scaledExponentCap) = number.exponent := by
      omega
    rw [exponent, ← isZero]
  · next notZero =>
    have last : context.lastExponent number ≤ number.exponent := by
      unfold lastExponent
      omega
    rw [Decimal.bounded, if_neg (by omega), ok_bind]
    exact if_pos last

/-- What rounding comes to, for a number whose digits fit the precision. -/
inductive RoundsTo
    (context : Context)
    (number : Decimal) :
    Except Fault Decimal → Prop where
  | tooLarge
      (beyond : 10 ^ (scaledExponentCap + 1) ≤ number.value) :
      RoundsTo context number (.error .exponentOverflow)
  | exact
      (within : number.value < 10 ^ (scaledExponentCap + 1))
      (placed : context.smallestExponent ≤ number.exponent) :
      RoundsTo context number (.ok number)
  | inexact
      {coefficient : Nat}
      (below : number.exponent < context.smallestExponent)
      (fewer : coefficient ≤ number.coefficient)
      (vanishes : coefficient = 0 ↔ 2 * number.value ≤ 10 ^ context.smallestExponent) :
      RoundsTo context number (.ok ⟨coefficient, context.smallestExponent⟩)

/-- A number below the smallest exponent vanishes by its value. -/
theorem vanishes_iff
    (below : number.exponent < context.smallestExponent) :
    2 * number.coefficient ≤ 10 ^ (context.smallestExponent - number.exponent).toNat ↔
      2 * number.value ≤ 10 ^ context.smallestExponent := by
  have ten : (10 : ℚ) ≠ 0 := by norm_num
  have positive : (0 : ℚ) < 10 ^ number.exponent := by positivity
  have places : (((context.smallestExponent - number.exponent).toNat : Nat) : ℤ) =
      context.smallestExponent - number.exponent :=
    Int.toNat_of_nonneg (by omega)
  have split : (10 : ℚ) ^ context.smallestExponent =
      ((10 ^ (context.smallestExponent - number.exponent).toNat : Nat) : ℚ) *
        10 ^ number.exponent := by
    rw [Nat.cast_pow, Nat.cast_ofNat, ← zpow_natCast, places, ← zpow_add₀ ten, sub_add_cancel]
  rw [Decimal.value, split, ← mul_assoc, mul_le_mul_iff_left₀ positive]
  exact_mod_cast Iff.rfl

theorem roundsTo_round
    (notZero : number.coefficient ≠ 0)
    (fits : number.length ≤ context.precision) :
    RoundsTo context number (context.round number) := by
  rw [Context.round, if_neg notZero]
  by_cases within : number.value < 10 ^ (scaledExponentCap + 1)
  · rw [(Decimal.bounded_eq notZero).2 within, ok_bind]
    by_cases placed : context.smallestExponent ≤ number.exponent
    · have early : context.lastExponent number ≤ number.exponent := by
        unfold lastExponent
        omega
      simp only [if_pos early]
      exact .exact within placed
    · have below := Int.not_le.1 placed
      have smallest : context.lastExponent number = context.smallestExponent := by
        unfold lastExponent
        omega
      have fewer := roundDigits_le number.coefficient
        (context.smallestExponent - number.exponent).toNat
      have noCarry : digitCount (roundDigits number.coefficient
          (context.smallestExponent - number.exponent).toNat) ≤ context.precision := by
        refine le_trans ((digitCount_le_iff number.length_pos).2 ?_) fits
        exact lt_of_le_of_lt fewer number.coefficient_lt
      simp only [smallest, if_neg (Int.not_le.2 below), Decimal.length,
        if_neg (Nat.not_lt.2 noCarry)]
      exact .inexact below fewer
        ((roundDigits_eq_zero_iff _ _).trans (vanishes_iff below))
  · rw [(Decimal.bounded_eq notZero).1 (not_lt.1 within)]
    exact .tooLarge (not_lt.1 within)

end Context

end Holdings.Amount
