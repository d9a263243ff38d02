import Holdings.Proofs.Amount.Context
import Holdings.Proofs.Amount.PlainDecimal

/-!
# Numbers without zeros at the end

Dropping the zeros at the end of a number leaves its value as it is, as long as a
context holds the number.  What is left is written as the one plain decimal number
that denotes it: the point may stand within the digits, or in front of them behind
a zero and further zeros, or nowhere, with zeros filled in behind the digits.
-/

namespace Holdings.Amount

open Holdings.Text
open Outcome

variable {number : Decimal}

/-! ## Dropping zeros -/

namespace Decimal

/-- The digits of a coefficient in front of the zeros at its end. -/
def leadingDigits
    (number : Decimal) :
    List Char :=
  trimFraction (decimalDigits number.coefficient)

theorem leadingDigits_append_zeros
    (number : Decimal) :
    decimalDigits number.coefficient =
      number.leadingDigits ++ List.replicate number.trailingZeros '0' :=
  trimFraction_append_zeros _

theorem coefficient_eq
    (number : Decimal) :
    number.coefficient = digitsValue number.leadingDigits * 10 ^ number.trailingZeros := by
  have split := congrArg digitsValue number.leadingDigits_append_zeros
  rwa [digitsValue_decimalDigits, digitsValue_append, digitsValue_replicate_zero,
    List.length_replicate, Nat.add_zero] at split

theorem leadingDigits_ne_nil
    (notZero : number.coefficient ≠ 0) :
    number.leadingDigits ≠ [] := by
  intro none
  rw [number.coefficient_eq, none, digitsValue_nil, Nat.zero_mul] at notZero
  exact notZero rfl

theorem areDigits_leadingDigits
    (number : Decimal) :
    AreDigits number.leadingDigits := by
  intro character member
  exact areDigits_decimalDigits _ character (mem_of_mem_trimFraction member)

theorem leadingDigits_mod_ten_ne_zero
    (notZero : number.coefficient ≠ 0) :
    digitsValue number.leadingDigits % 10 ≠ 0 := by
  rw [Ne, digitsValue_mod_ten_eq_zero_iff number.areDigits_leadingDigits
    (leadingDigits_ne_nil notZero)]
  exact getLast?_trimFraction_ne_zero _

/-- Not all digits of a number are zeros at its end. -/
theorem trailingZeros_lt
    (notZero : number.coefficient ≠ 0) :
    number.trailingZeros < number.length := by
  have split := congrArg List.length number.leadingDigits_append_zeros
  have positive := List.length_pos_iff.2 (leadingDigits_ne_nil notZero)
  have length : (decimalDigits number.coefficient).length = number.length := rfl
  rw [List.length_append, List.length_replicate, length] at split
  omega

end Decimal

/-- What a context holds is reduced without a change of its value. -/
theorem Context.Holds.exists_reduce
    {context : Context}
    (holds : context.Holds number)
    (notZero : number.coefficient ≠ 0) :
    ∃ reduced,
      context.reduce number = .ok reduced ∧
        reduced.value = number.value ∧ reduced.coefficient % 10 ≠ 0 := by
  have fewer := Decimal.trailingZeros_lt notZero
  have bounded := holds.bounded
  -- The exponent may grow by all of the zeros, since the leading digit stays where it is.
  have count :
      min number.trailingZeros (scaledExponentCap - number.exponent).toNat =
        number.trailingZeros := by
    omega
  have quotient :
      number.coefficient / 10 ^ number.trailingZeros = digitsValue number.leadingDigits :=
    Nat.div_eq_of_eq_mul_left (by positivity) number.coefficient_eq
  refine ⟨⟨digitsValue number.leadingDigits, number.exponent + number.trailingZeros⟩, ?_, ?_,
    Decimal.leadingDigits_mod_ten_ne_zero notZero⟩
  · rw [Context.reduce, holds.round, ok_bind, if_neg notZero]
    simp only [count, Nat.pow_eq, quotient]
    rfl
  · have coefficient : (number.coefficient : ℚ) =
        digitsValue number.leadingDigits * 10 ^ number.trailingZeros := by
      exact_mod_cast number.coefficient_eq
    rw [Decimal.value, Decimal.value, coefficient, zpow_add₀ (by norm_num), zpow_natCast]
    ring

/-! ## Writing a number -/

/-- Digits with as many places as the exponent tells are the plain decimal number. -/
theorem exists_joinPoint
    {whole places : List Char}
    (areWhole : AreDigits whole)
    (arePlaces : AreDigits places)
    (notEmpty : whole ≠ [])
    (noLeadingZero : HasNoLeadingZero whole)
    (noZeroAtEnd : places.getLast? ≠ some '0')
    (size : digitsValue (whole ++ places) = number.coefficient * 10 ^ number.exponent.toNat)
    (count : places.length = (-number.exponent).toNat) :
    ∃ plain : PlainDecimal,
      joinPoint whole places = plain.text ∧ plain.value = number.value := by
  let plain : PlainDecimal :=
    ⟨whole, places, areWhole, arePlaces, notEmpty, noLeadingZero, noZeroAtEnd⟩
  refine ⟨plain, plain.text_eq_joinPoint.symm, ?_⟩
  have sameSize : plain.size = number.coefficient * 10 ^ number.exponent.toNat := size
  have samePlaces : plain.places.length = (-number.exponent).toNat := count
  rw [PlainDecimal.value, sameSize, samePlaces]
  by_cases natural : 0 ≤ number.exponent
  · have none : (-number.exponent).toNat = 0 := by
      omega
    rw [Decimal.value_of_nonneg natural, none, pow_zero, div_one]
  · have none : number.exponent.toNat = 0 := by
      omega
    have exponent : (((-number.exponent).toNat : Nat) : ℤ) = -number.exponent :=
      Int.toNat_of_nonneg (by omega)
    rw [Decimal.value, none, pow_zero, Nat.mul_one, ← zpow_natCast, exponent, zpow_neg,
      div_inv_eq_mul]

/-- The digits of the coefficient of a number that is not zero and has no zeros at its end. -/
structure Decimal.HasDigits
    (number : Decimal)
    (digits : List Char) :
    Prop where
  areDigits : AreDigits digits
  notEmpty : digits ≠ []
  value : digitsValue digits = number.coefficient
  noZeroInFront : digits.head? ≠ some '0'
  noZeroAtEnd : digits.getLast? ≠ some '0'

namespace Decimal

theorem hasDigits_decimalDigits
    (reduced : number.coefficient % 10 ≠ 0) :
    number.HasDigits (decimalDigits number.coefficient) := by
  have areDigits := areDigits_decimalDigits number.coefficient
  have notEmpty : decimalDigits number.coefficient ≠ [] := by
    simp [decimalDigits]
  have value := digitsValue_decimalDigits number.coefficient
  refine ⟨areDigits, notEmpty, value, ?_, ?_⟩
  · intro startsWithZero
    rw [hasNoLeadingZero_decimalDigits _ startsWithZero] at value
    exact reduced (congrArg (· % 10) value).symm
  · rwa [Ne, ← digitsValue_mod_ten_eq_zero_iff areDigits notEmpty, value]

variable {digits : List Char}

/-- The point stands in front of the digits, behind a zero and as many more as it takes. -/
theorem HasDigits.exists_joinPoint_inFront
    (held : number.HasDigits digits)
    (inFront : number.exponent + digits.length ≤ 0) :
    ∃ plain : PlainDecimal,
      joinPoint ['0']
            (List.replicate (-(number.exponent + digits.length)).toNat '0' ++ digits) =
          plain.text ∧
        plain.value = number.value := by
  have noZeros : number.exponent.toNat = 0 := by
    omega
  apply exists_joinPoint
  case areWhole => simp
  case arePlaces => exact (areDigits_append _ _).2 ⟨areDigits_replicate_zero _, held.areDigits⟩
  case notEmpty => simp
  case noLeadingZero => exact fun _ => rfl
  case noZeroAtEnd =>
    rw [List.getLast?_append_of_ne_nil _ held.notEmpty]
    exact held.noZeroAtEnd
  case size =>
    rw [noZeros, pow_zero, Nat.mul_one, ← held.value]
    simp [digitsValue_cons, digitsValue_append, asciiDigitValue]
  case count =>
    simp only [List.length_append, List.length_replicate]
    omega

/-- Behind the digits zeros are filled in, and there is no point. -/
theorem HasDigits.exists_joinPoint_behind
    (held : number.HasDigits digits)
    (behind : 0 ≤ number.exponent) :
    ∃ plain : PlainDecimal,
      joinPoint (digits ++ List.replicate number.exponent.toNat '0') [] = plain.text ∧
        plain.value = number.value := by
  apply exists_joinPoint
  case areWhole => exact (areDigits_append _ _).2 ⟨held.areDigits, areDigits_replicate_zero _⟩
  case arePlaces => exact areDigits_nil
  case notEmpty => simp [held.notEmpty]
  case noLeadingZero =>
    intro startsWithZero
    rw [List.head?_append_of_ne_nil _ held.notEmpty] at startsWithZero
    exact absurd startsWithZero held.noZeroInFront
  case noZeroAtEnd => simp
  case size =>
    rw [List.append_nil, digitsValue_append, held.value, digitsValue_replicate_zero,
      List.length_replicate, Nat.add_zero]
  case count =>
    rw [List.length_nil]
    omega

/-- The point stands within the digits, or behind the last of them. -/
theorem HasDigits.exists_joinPoint_within
    (held : number.HasDigits digits)
    {whole places : List Char}
    (split : whole ++ places = digits)
    (notEmpty : whole ≠ [])
    (count : places.length = (-number.exponent).toNat)
    (noZeros : number.exponent.toNat = 0) :
    ∃ plain : PlainDecimal,
      joinPoint whole places = plain.text ∧ plain.value = number.value := by
  have areBoth := (areDigits_append _ _).1 (split.symm ▸ held.areDigits)
  apply exists_joinPoint areBoth.1 areBoth.2 notEmpty
  case noLeadingZero =>
    intro startsWithZero
    have sameHead : (whole ++ places).head? = whole.head? :=
      List.head?_append_of_ne_nil whole notEmpty
    rw [← sameHead, split] at startsWithZero
    exact absurd startsWithZero held.noZeroInFront
  case noZeroAtEnd =>
    intro endsWithZero
    have somePlace : places ≠ [] := by
      rintro rfl
      cases endsWithZero
    rw [← List.getLast?_append_of_ne_nil whole somePlace, split] at endsWithZero
    exact held.noZeroAtEnd endsWithZero
  case size =>
    rw [split, held.value, noZeros, pow_zero, Nat.mul_one]
  case count => exact count

/-- A number without zeros at its end is written as the plain decimal number that denotes it. -/
theorem exists_plainText
    (reduced : number.coefficient % 10 ≠ 0) :
    ∃ plain : PlainDecimal, number.plainText = plain.text ∧ plain.value = number.value := by
  have notZero : number.coefficient ≠ 0 := by
    intro isZero
    rw [isZero] at reduced
    exact reduced rfl
  have held := hasDigits_decimalDigits reduced
  unfold plainText
  rw [if_neg notZero]
  generalize decimalDigits number.coefficient = digits at held
  dsimp only
  split
  · next inFront =>
    exact held.exists_joinPoint_inFront (Int.le_of_lt inFront)
  · split
    · next behind =>
      exact held.exists_joinPoint_behind (by omega)
    · next within =>
      have split := List.take_append_drop (number.exponent + digits.length).toNat digits
      have noZeros : number.exponent.toNat = 0 := by
        omega
      have count : (digits.drop (number.exponent + digits.length).toNat).length =
          (-number.exponent).toNat := by
        rw [List.length_drop]
        omega
      by_cases none : digits.take (number.exponent + digits.length).toNat = []
      · -- The point is right in front of the digits, where the zero stands alone.
        have atFront : number.exponent + digits.length = 0 := by
          have nowhere := congrArg List.length none
          have some := List.length_pos_iff.2 held.notEmpty
          rw [List.length_take, List.length_nil] at nowhere
          omega
        have same := held.exists_joinPoint_inFront (Int.le_of_eq atFront)
        rw [none, List.nil_append] at split
        rw [none, split]
        rw [atFront] at same
        exact same
      · rw [if_neg (by simpa using none)]
        exact held.exists_joinPoint_within split none count noZeros

end Decimal

end Holdings.Amount
