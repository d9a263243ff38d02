import Holdings.Proofs.Amount.Context
import Holdings.Proofs.Amount.Decimal
import Holdings.Proofs.Number.Magnitude

/-!
# Representable amounts

A numeral of whole units stands for an amount of smallest units when its value, scaled by the
decimals, is a natural number.  Exactly these numerals are read, as far as the amount is short
enough to be printed, and everything else is refused as an unacceptable value.

Scaling is done with a bounded exponent, and at its bounds this fails.  A number that is too
large for any exponent ends in a fault of another class, and a positive number that is too small
for any exponent becomes zero.  Apart from these two, what is read is what is represented.
-/

namespace Holdings.Amount

open Holdings.Text
open Outcome

/-! ## Working precision -/

/-- The working precision for so many digits and decimals suffices. -/
def IsPrecise
    (digits decimals : Nat) :
    Prop :=
  (digits : Int) + decimals + 2 ≤ precisionCap

theorem forDigits_eq_ok
    {digits decimals : Nat}
    (precise : IsPrecise digits decimals) :
    Context.forDigits digits decimals = .ok ⟨digits + decimals + 2⟩ := by
  have cap : precisionCap ≤ wordCap := by
    decide
  unfold IsPrecise at precise
  simp only [Context.forDigits]
  rw [if_neg (by omega), if_neg (by omega)]

theorem checkDecimals_natCast
    (decimals : Nat) :
    checkDecimals decimals = .ok decimals := by
  simp [checkDecimals]

/-! ## What scaling comes to -/

/-- The place of the last digit that is kept when so many digits are scaled by so many places. -/
def lowestPlace
    (length decimals : Nat) :
    ℤ :=
  -scaledExponentCap - 1 - length - decimals

/-- What scaling comes to, by the value of the scaled number: a fault, an integer or none. -/
inductive ScalesTo
    (scaled : ℚ)
    (lowest : ℤ) :
    Except Fault (Option Nat) → Prop where
  | tooLarge
      (beyond : 10 ^ (scaledExponentCap + 1) ≤ scaled) :
      ScalesTo scaled lowest (.error .exponentOverflow)
  | lost
      (positive : 0 < scaled)
      (tiny : 2 * scaled ≤ 10 ^ lowest) :
      ScalesTo scaled lowest (.ok (some 0))
  | integer
      {amount : Nat}
      (whole : scaled = amount)
      (within : scaled < 10 ^ (scaledExponentCap + 1)) :
      ScalesTo scaled lowest (.ok (some amount))
  | fraction
      (broken : ∀ amount : Nat, scaled ≠ amount)
      (seen : 10 ^ lowest < 2 * scaled)
      (within : scaled < 10 ^ (scaledExponentCap + 1)) :
      ScalesTo scaled lowest (.ok none)

theorem one_le_pow_cap :
    (1 : ℚ) ≤ 10 ^ (scaledExponentCap + 1) :=
  one_le_zpow₀ (by norm_num) (by decide)

section Scaling

variable {numeral : Numeral}

/-- A numeral without its sign, scaled by so many places. -/
def scaledNumber
    (numeral : Numeral)
    (decimals : Nat) :
    Decimal :=
  ⟨numeral.coefficient, numeral.exponent + decimals⟩

theorem value_scaledNumber
    (numeral : Numeral)
    (decimals : Nat) :
    (scaledNumber numeral decimals).value = numeral.magnitude * 10 ^ decimals := by
  rw [Decimal.value, Numeral.magnitude, scaledNumber, zpow_add₀ (by norm_num), zpow_natCast,
    mul_assoc]

theorem length_scaledNumber
    (plain : numeral.HasPlainDigits)
    (decimals : Nat) :
    (scaledNumber numeral decimals).length = numeral.length :=
  plain.digitCount_coefficient

/-- The integer that a numeral comes to when it is scaled in the context that is made for it. -/
def scaledInteger
    (numeral : Numeral)
    (decimals : Nat) :
    Except Fault (Option Nat) :=
  (Context.round ⟨numeral.length + decimals + 2⟩ (scaledNumber numeral decimals)).map
    Decimal.integer?

/-- No number is scaled by too many places in the context that is made for them. -/
theorem scaleBy_eq
    (numeral : Numeral)
    (decimals : Nat) :
    Context.scaleBy ⟨numeral.length + decimals + 2⟩ ⟨numeral.coefficient, numeral.exponent⟩
        decimals =
      Context.round ⟨numeral.length + decimals + 2⟩ (scaledNumber numeral decimals) := by
  apply if_neg
  simp only [scaledExponentCap, Int.natAbs_natCast]
  omega

theorem ne_natCast_of_lt_one
    {scaled : ℚ}
    (positive : 0 < scaled)
    (small : scaled < 1)
    (amount : Nat) :
    scaled ≠ amount := by
  rintro rfl
  rw [Nat.cast_lt_one] at small
  rw [small, Nat.cast_zero] at positive
  exact absurd positive (lt_irrefl 0)

/-- A number that does not vanish below the smallest exponent stays between zero and one. -/
theorem scalesTo_of_inexact
    {number : Decimal}
    {context : Context}
    {coefficient : Nat}
    (notZero : number.coefficient ≠ 0)
    (fits : number.length ≤ context.precision)
    (below : number.exponent < context.smallestExponent)
    (fewer : coefficient ≤ number.coefficient)
    (vanishes : coefficient = 0 ↔ 2 * number.value ≤ 10 ^ context.smallestExponent) :
    ScalesTo number.value context.smallestExponent
      (.ok (Decimal.integer? ⟨coefficient, context.smallestExponent⟩)) := by
  have positive := Decimal.value_pos notZero
  have behindPoint : context.smallestExponent + number.length ≤ 0 := by
    unfold Context.smallestExponent scaledExponentCap
    omega
  by_cases vanished : coefficient = 0
  · have zero : Decimal.integer? ⟨coefficient, context.smallestExponent⟩ = some 0 :=
      if_pos vanished
    rw [zero]
    exact .lost positive (vanishes.1 vanished)
  · have small : number.value < 1 := by
      rw [← zpow_zero (10 : ℚ), Decimal.value_lt_iff notZero]
      omega
    have digits : Decimal.length ⟨coefficient, context.smallestExponent⟩ ≤ number.length :=
      (digitCount_le_iff number.length_pos).2 (lt_of_le_of_lt fewer number.coefficient_lt)
    have keptSmall : Decimal.value ⟨coefficient, context.smallestExponent⟩ < 1 := by
      rw [← zpow_zero (10 : ℚ), Decimal.value_lt_iff vanished]
      dsimp only
      omega
    have none : Decimal.integer? ⟨coefficient, context.smallestExponent⟩ = none :=
      Decimal.integer?_eq_none_iff.2
        (ne_natCast_of_lt_one (Decimal.value_pos vanished) keptSmall)
    rw [none]
    exact .fraction (ne_natCast_of_lt_one positive small)
      (not_le.1 fun tiny => vanished (vanishes.2 tiny)) (small.trans_le one_le_pow_cap)

/-- Scaling takes a numeral to what its value tells. -/
theorem scalesTo_scaledInteger
    (plain : numeral.HasPlainDigits)
    (decimals : Nat) :
    ScalesTo (numeral.magnitude * 10 ^ decimals) (lowestPlace numeral.length decimals)
      (scaledInteger numeral decimals) := by
  have smallest :
      Context.smallestExponent ⟨numeral.length + decimals + 2⟩ =
        lowestPlace numeral.length decimals := by
    simp only [Context.smallestExponent, lowestPlace]
    omega
  have fits :
      (scaledNumber numeral decimals).length ≤
        Context.precision ⟨numeral.length + decimals + 2⟩ := by
    rw [length_scaledNumber plain]
    dsimp only
    omega
  rw [← value_scaledNumber, ← smallest, scaledInteger]
  by_cases isZero : (scaledNumber numeral decimals).coefficient = 0
  · have nothing := Decimal.value_of_isZero isZero
    rw [Context.round, if_pos isZero]
    refine .integer nothing ?_
    rw [nothing, Nat.cast_zero]
    exact zero_lt_one.trans_le one_le_pow_cap
  · have rounds := Context.roundsTo_round isZero fits
    generalize Context.round ⟨numeral.length + decimals + 2⟩ (scaledNumber numeral decimals) =
      rounded at rounds
    cases rounds with
    | tooLarge beyond =>
        exact .tooLarge beyond
    | inexact below fewer vanishes =>
        exact scalesTo_of_inexact isZero fits below fewer vanishes
    | exact within placed =>
        cases found : (scaledNumber numeral decimals).integer? with
        | some amount =>
            have whole := Decimal.integer?_eq_some_iff.1 found
            rw [Except.map, found]
            exact .integer whole within
        | none =>
            have broken := Decimal.integer?_eq_none_iff.1 found
            have atLeast := Decimal.pow_exponent_le isZero
            have positive := Decimal.value_pos isZero
            have lowest : (10 : ℚ) ^ Context.smallestExponent ⟨numeral.length + decimals + 2⟩ ≤
                10 ^ (scaledNumber numeral decimals).exponent :=
              zpow_le_zpow_right₀ (by norm_num) placed
            rw [Except.map, found]
            exact .fraction broken (by linarith) within

end Scaling

/-! ## What is read -/

/-- What is made of a scaled number: the text of an integer, or else a fault. -/
def finish
    (given : Json)
    (decimals : Int) :
    Except Fault (Option Nat) → Except Fault String
  | .ok (some amount) => print amount
  | .ok none => .error (.tooManyPlaces given decimals)
  | .error fault => .error fault

variable {text : String} {decimals : Nat}

theorem toSmallestUnit_of_isSpelledBy
    {numeral : Numeral}
    (spelled : numeral.IsSpelledBy text)
    (nonneg : 0 ≤ numeral.value)
    (precise : IsPrecise numeral.length decimals) :
    toSmallestUnit (.text text) decimals =
      finish (.text text) decimals (scaledInteger numeral decimals) := by
  have read := Numeral.ofText?_eq_some_iff.2 spelled
  have notNegative := spelled.hasPlainDigits.value_nonneg_iff.1 nonneg
  simp only [toSmallestUnit, checkDecimals_natCast, Json.isShowable, Json.shown_text, read,
    notNegative, forDigits_eq_ok precise, ok_bind, Bool.not_true, Bool.false_eq_true,
    if_false, scaleBy_eq, scaledInteger]
  cases Context.round ⟨numeral.length + decimals + 2⟩ (scaledNumber numeral decimals) with
  | error fault =>
      rfl
  | ok scaled =>
      rw [ok_bind, Except.map]
      cases scaled.integer? <;> rfl

/-- What denotes no number that is positive or zero is refused as no numeral. -/
theorem toSmallestUnit_of_not_isSpelledBy
    (unspelled : ∀ numeral : Numeral, numeral.IsSpelledBy text → ¬ 0 ≤ numeral.value)
    (decimals : Nat) :
    toSmallestUnit (.text text) decimals = .error (.invalidNumeral (.text text)) := by
  simp only [toSmallestUnit, checkDecimals_natCast, Json.isShowable, Json.shown_text, ok_bind,
    Bool.not_true, Bool.false_eq_true, if_false]
  cases read : Numeral.ofText? text with
  | none =>
      rfl
  | some numeral =>
      have spelled := Numeral.ofText?_eq_some_iff.1 read
      have below := unspelled numeral spelled
      rw [spelled.hasPlainDigits.value_nonneg_iff, Bool.not_eq_false] at below
      simp only [below, if_true]
      rfl

/-- The text is the decimal text of the amount of smallest units that a text denotes. -/
def Represents
    (text : String)
    (decimals : Nat)
    (written : String) :
    Prop :=
  ∃ (numeral : Numeral) (amount : Nat),
    numeral.IsSpelledBy text ∧
      numeral.value * 10 ^ decimals = amount ∧
      amount < 10 ^ numeralLimit ∧
      written = decimalText amount

/-- What is represented is read as it is, and everything else is refused as a value. -/
structure ReadsExactly
    (text : String)
    (decimals : Nat) :
    Prop where
  accepts : ∀ written,
    toSmallestUnit (.text text) decimals = .ok written ↔ Represents text decimals written
  refuses : FailsOnlyWith .value (toSmallestUnit (.text text) decimals)

/-- The number is too large for any exponent after scaling. -/
def IsOverlarge
    (numeral : Numeral)
    (decimals : Nat) :
    Prop :=
  10 ^ (scaledExponentCap + 1) ≤ numeral.value * 10 ^ decimals

/-- The number is positive, but after scaling it is too small for any exponent. -/
def IsLost
    (numeral : Numeral)
    (decimals : Nat) :
    Prop :=
  0 < numeral.value * 10 ^ decimals ∧
    2 * (numeral.value * 10 ^ decimals) ≤ 10 ^ lowestPlace numeral.length decimals

/-- A text represents what its own numeral denotes, as no text spells two numerals. -/
theorem represents_iff
    {numeral : Numeral}
    (spelled : numeral.IsSpelledBy text)
    (decimals : Nat)
    (written : String) :
    Represents text decimals written ↔
      ∃ amount : Nat,
        numeral.value * 10 ^ decimals = amount ∧
          amount < 10 ^ numeralLimit ∧
          written = decimalText amount := by
  constructor
  · rintro ⟨other, amount, otherSpelled, whole, printable, same⟩
    have read := Numeral.ofText?_eq_some_iff.2 spelled
    rw [Numeral.ofText?_eq_some_iff.2 otherSpelled] at read
    cases read
    exact ⟨amount, whole, printable, same⟩
  · rintro ⟨amount, whole, printable, same⟩
    exact ⟨numeral, amount, spelled, whole, printable, same⟩

/-! ## Numbers at the bounds -/

section Bounds

variable {scaled : ℚ} {length : Nat} {result : Except Fault (Option Nat)}

theorem pow_lowestPlace_le_one
    (length decimals : Nat) :
    (10 : ℚ) ^ lowestPlace length decimals ≤ 1 := by
  apply zpow_le_one_of_nonpos₀ (by norm_num)
  unfold lowestPlace scaledExponentCap
  omega

/-- No amount that can be printed is too large for an exponent. -/
theorem lt_pow_cap_of_printable
    {amount : Nat}
    (printable : amount < 10 ^ numeralLimit) :
    (amount : ℚ) < 10 ^ (scaledExponentCap + 1) := by
  have few : (numeralLimit : ℤ) ≤ scaledExponentCap + 1 := by decide
  calc
    (amount : ℚ) < ((10 ^ numeralLimit : Nat) : ℚ) := by
      exact_mod_cast printable
    _ = 10 ^ (numeralLimit : ℤ) := by
      rw [zpow_natCast, Nat.cast_pow, Nat.cast_ofNat]
    _ ≤ 10 ^ (scaledExponentCap + 1) := by
      exact zpow_le_zpow_right₀ (by norm_num) few

/-- No natural number is positive and lost. -/
theorem natCast_not_tiny
    {amount : Nat}
    (positive : (0 : ℚ) < amount) :
    ¬ 2 * (amount : ℚ) ≤ 10 ^ lowestPlace length decimals := by
  have atMostOne := pow_lowestPlace_le_one length decimals
  have atLeastOne : (1 : ℚ) ≤ amount := by
    exact_mod_cast Nat.one_le_iff_ne_zero.mpr (by exact_mod_cast positive.ne')
  intro tiny
  linarith

theorem ScalesTo.eq_tooLarge
    (scales : ScalesTo scaled (lowestPlace length decimals) result)
    (beyond : 10 ^ (scaledExponentCap + 1) ≤ scaled) :
    result = .error .exponentOverflow := by
  cases scales with
  | tooLarge =>
      rfl
  | lost positive tiny =>
      have atMostOne := pow_lowestPlace_le_one length decimals
      have atLeastOne := one_le_pow_cap
      linarith
  | integer _ within =>
      exact absurd beyond (not_le.mpr within)
  | fraction _ _ within =>
      exact absurd beyond (not_le.mpr within)

theorem ScalesTo.eq_zero
    (scales : ScalesTo scaled (lowestPlace length decimals) result)
    (positive : 0 < scaled)
    (tiny : 2 * scaled ≤ 10 ^ lowestPlace length decimals) :
    result = .ok (some 0) := by
  cases scales with
  | lost =>
      rfl
  | tooLarge beyond =>
      have atMostOne := pow_lowestPlace_le_one length decimals
      have atLeastOne := one_le_pow_cap
      linarith
  | integer whole =>
      rw [whole] at positive tiny
      exact absurd tiny (natCast_not_tiny positive)
  | fraction _ seen =>
      exact absurd tiny (not_le.mpr seen)

theorem ScalesTo.eq_integer
    {amount : Nat}
    (scales : ScalesTo (amount : ℚ) (lowestPlace length decimals) result)
    (printable : amount < 10 ^ numeralLimit) :
    result = .ok (some amount) := by
  generalize denoted : (amount : ℚ) = scaled at scales
  cases scales with
  | integer whole =>
      rw [Nat.cast_injective (denoted.trans whole)]
  | tooLarge beyond =>
      rw [← denoted] at beyond
      exact absurd beyond (not_le.mpr (lt_pow_cap_of_printable printable))
  | lost positive tiny =>
      rw [← denoted] at positive tiny
      exact absurd tiny (natCast_not_tiny positive)
  | fraction broken =>
      exact absurd denoted.symm (broken amount)

end Bounds

section Reading

variable {numeral : Numeral}

theorem nonneg_of_scaled_pos
    (positive : 0 < numeral.value * 10 ^ decimals) :
    0 ≤ numeral.value :=
  ((mul_pos_iff_of_pos_right (by positivity)).1 positive).le

theorem nonneg_of_whole
    {amount : Nat}
    (whole : numeral.value * 10 ^ decimals = amount) :
    0 ≤ numeral.value := by
  have scale : (0 : ℚ) < 10 ^ decimals := by positivity
  exact nonneg_of_mul_nonneg_left (whole ▸ Nat.cast_nonneg amount) scale

/-- What a numeral that is not negative is scaled to is told by its value. -/
theorem scalesTo_value
    (spelled : numeral.IsSpelledBy text)
    (nonneg : 0 ≤ numeral.value)
    (decimals : Nat) :
    ScalesTo (numeral.value * 10 ^ decimals) (lowestPlace numeral.length decimals)
      (scaledInteger numeral decimals) := by
  rw [Numeral.value_eq_magnitude nonneg]
  exact scalesTo_scaledInteger spelled.hasPlainDigits decimals

/-- A number that is lost is read as zero. -/
theorem toSmallestUnit_of_isLost
    (spelled : numeral.IsSpelledBy text)
    (precise : IsPrecise numeral.length decimals)
    (lost : IsLost numeral decimals) :
    toSmallestUnit (.text text) decimals = .ok "0" := by
  rcases lost with ⟨positive, tiny⟩
  have nonneg := nonneg_of_scaled_pos positive
  have printable : 0 < 10 ^ numeralLimit := by positivity
  rw [toSmallestUnit_of_isSpelledBy spelled nonneg precise,
    (scalesTo_value spelled nonneg decimals).eq_zero positive tiny, finish, print_of_lt printable]
  rfl

/-- Zero is not what a number denotes that is lost. -/
theorem not_readsExactly_of_isLost
    (spelled : numeral.IsSpelledBy text)
    (precise : IsPrecise numeral.length decimals)
    (lost : IsLost numeral decimals) :
    ¬ ReadsExactly text decimals := by
  have read := toSmallestUnit_of_isLost spelled precise lost
  rcases lost with ⟨positive, tiny⟩
  intro reads
  rcases (represents_iff spelled decimals _).1 ((reads.accepts _).1 read) with ⟨amount, whole, -, -⟩
  rw [whole] at positive tiny
  exact natCast_not_tiny positive tiny

/-- A number that is too large ends in a fault that is not one of values. -/
theorem not_readsExactly_of_isOverlarge
    (spelled : numeral.IsSpelledBy text)
    (precise : IsPrecise numeral.length decimals)
    (overlarge : IsOverlarge numeral decimals) :
    ¬ ReadsExactly text decimals := by
  have positive : 0 < numeral.value * 10 ^ decimals :=
    (zero_lt_one.trans_le one_le_pow_cap).trans_le overlarge
  have nonneg := nonneg_of_scaled_pos positive
  have tooLarge := (scalesTo_value spelled nonneg decimals).eq_tooLarge overlarge
  have read := toSmallestUnit_of_isSpelledBy spelled nonneg precise
  rw [tooLarge] at read
  intro reads
  exact absurd (reads.refuses _ read) (by decide)

/-- An amount that can be printed is read from every text that denotes it. -/
theorem toSmallestUnit_of_whole
    (spelled : numeral.IsSpelledBy text)
    (precise : IsPrecise numeral.length decimals)
    {amount : Nat}
    (whole : numeral.value * 10 ^ decimals = amount)
    (printable : amount < 10 ^ numeralLimit) :
    toSmallestUnit (.text text) decimals = .ok (decimalText amount) := by
  have nonneg := nonneg_of_whole whole
  have scales := scalesTo_value spelled nonneg decimals
  rw [toSmallestUnit_of_isSpelledBy spelled nonneg precise]
  rw [whole] at scales
  rw [scales.eq_integer printable, finish]
  simp only [print_of_lt printable]

/-- Between the bounds, what is represented is read, and nothing else is. -/
theorem readsExactly_of_isSpelledBy
    (spelled : numeral.IsSpelledBy text)
    (nonneg : 0 ≤ numeral.value)
    (precise : IsPrecise numeral.length decimals)
    (notOverlarge : ¬ IsOverlarge numeral decimals)
    (notLost : ¬ IsLost numeral decimals) :
    ReadsExactly text decimals := by
  have read := toSmallestUnit_of_isSpelledBy spelled nonneg precise
  have represents := represents_iff spelled decimals
  have scales := scalesTo_value spelled nonneg decimals
  generalize scaledInteger numeral decimals = result at read scales
  cases scales with
  | tooLarge beyond =>
      exact absurd beyond notOverlarge
  | lost positive tiny =>
      exact absurd ⟨positive, tiny⟩ notLost
  | @integer amount whole =>
      rw [finish] at read
      constructor
      · intro written
        rw [read, print_eq_ok_iff, represents]
        constructor
        · rintro ⟨printable, same⟩
          exact ⟨amount, whole, printable, same⟩
        · rintro ⟨other, otherWhole, printable, same⟩
          rw [Nat.cast_injective (whole.symm.trans otherWhole)]
          exact ⟨printable, same⟩
      · rw [read]
        exact failsOnlyWith_print amount
  | fraction broken =>
      rw [finish] at read
      constructor
      · intro written
        rw [read, represents]
        constructor
        · intro refused
          cases refused
        · rintro ⟨other, otherWhole, -, -⟩
          exact absurd otherWhole (broken other)
      · rw [read]
        exact .error rfl

end Reading

/-- What denotes no number that is positive or zero represents nothing, and is refused. -/
theorem readsExactly_of_not_isSpelledBy
    (unspelled : ∀ numeral : Numeral, numeral.IsSpelledBy text → ¬ 0 ≤ numeral.value) :
    ReadsExactly text decimals := by
  have read := toSmallestUnit_of_not_isSpelledBy unspelled decimals
  constructor
  · intro written
    rw [read]
    constructor
    · intro refused
      cases refused
    · rintro ⟨numeral, amount, spelled, whole, -, -⟩
      exact absurd (nonneg_of_whole whole) (unspelled numeral spelled)
  · rw [read]
    exact .error rfl

/--
A text is read exactly unless the number that it denotes leaves the range of exponents when it is
scaled, at the one end or at the other.
-/
theorem readsExactly_iff
    {text : String}
    {decimals : Nat}
    (precise : ∀ numeral : Numeral,
      numeral.IsSpelledBy text → IsPrecise numeral.length decimals) :
    ReadsExactly text decimals ↔
      ¬ ∃ numeral : Numeral,
        numeral.IsSpelledBy text ∧ (IsOverlarge numeral decimals ∨ IsLost numeral decimals) := by
  constructor
  · rintro reads ⟨numeral, spelled, overlarge | lost⟩
    · exact not_readsExactly_of_isOverlarge spelled (precise numeral spelled) overlarge reads
    · exact not_readsExactly_of_isLost spelled (precise numeral spelled) lost reads
  · intro inRange
    by_cases denotes : ∃ numeral : Numeral, numeral.IsSpelledBy text ∧ 0 ≤ numeral.value
    · rcases denotes with ⟨numeral, spelled, nonneg⟩
      apply readsExactly_of_isSpelledBy spelled nonneg (precise numeral spelled)
      · exact fun overlarge => inRange ⟨numeral, spelled, .inl overlarge⟩
      · exact fun lost => inRange ⟨numeral, spelled, .inr lost⟩
    · apply readsExactly_of_not_isSpelledBy
      exact fun numeral spelled nonneg => denotes ⟨numeral, spelled, nonneg⟩

/-- One and a half in a roundabout spelling, at two decimals. -/
theorem readsExactly_iff_divided :
    (∀ numeral : Numeral, numeral.IsSpelledBy " +1_5.0e-1" → IsPrecise numeral.length 2) ∧
      (ReadsExactly " +1_5.0e-1" 2 ↔
        ¬ ∃ numeral : Numeral,
          numeral.IsSpelledBy " +1_5.0e-1" ∧ (IsOverlarge numeral 2 ∨ IsLost numeral 2)) := by
  have precise (numeral : Numeral) (spelled : numeral.IsSpelledBy " +1_5.0e-1") :
      IsPrecise numeral.length 2 := by
    have read : Numeral.ofText? " +1_5.0e-1" = some ⟨false, [1, 5, 0], -2⟩ := rfl
    cases read.symm.trans (Numeral.ofText?_eq_some_iff.2 spelled)
    unfold IsPrecise
    decide
  exact ⟨precise, readsExactly_iff precise⟩

/-- Without decimals, a number below every place is read as zero, and one above is no value. -/
theorem not_readsExactly_at_bounds :
    (toSmallestUnit (.text "1e-2000000") 0 = .ok "0" ∧ ¬ ReadsExactly "1e-2000000" 0) ∧
      toSmallestUnit (.text "1e1000000") 0 = .error .exponentOverflow ∧
        ¬ ReadsExactly "1e1000000" 0 := by
  have overflows : toSmallestUnit (.text "1e1000000") 0 = .error .exponentOverflow := rfl
  have spelled : (⟨false, [1], -2000000⟩ : Numeral).IsSpelledBy "1e-2000000" :=
    Numeral.ofText?_eq_some_iff.1 rfl
  have positive := spelled.hasPlainDigits.magnitude_pos rfl
  have ten : (10 : ℚ) ≠ 0 := by norm_num
  have small : Decimal.value ⟨1, -2000000⟩ < 10 ^ (lowestPlace 1 0 - 1) :=
    (Decimal.value_lt_iff (by decide) _).2 (by decide)
  have tenth : (10 : ℚ) ^ (lowestPlace 1 0 - 1) * 10 = 10 ^ lowestPlace 1 0 := by
    rw [← zpow_add_one₀ ten, sub_add_cancel]
  have denotes : Decimal.value ⟨1, -2000000⟩ = Numeral.magnitude ⟨false, [1], -2000000⟩ := rfl
  have lost : IsLost ⟨false, [1], -2000000⟩ 0 := by
    have unsigned : (⟨false, [1], -2000000⟩ : Numeral).value = Numeral.magnitude _ := rfl
    rw [IsLost, unsigned, pow_zero, mul_one]
    refine ⟨positive, ?_⟩
    rw [denotes] at small
    have lowest : lowestPlace (Numeral.length ⟨false, [1], -2000000⟩) 0 = lowestPlace 1 0 := rfl
    rw [lowest]
    linarith
  have precise : IsPrecise (Numeral.length ⟨false, [1], -2000000⟩) 0 := by
    unfold IsPrecise
    decide
  refine ⟨⟨toSmallestUnit_of_isLost spelled precise lost, ?_⟩, overflows, ?_⟩
  · exact not_readsExactly_of_isLost spelled precise lost
  · exact fun reads => absurd (reads.refuses _ overflows) (by decide)

end Holdings.Amount
