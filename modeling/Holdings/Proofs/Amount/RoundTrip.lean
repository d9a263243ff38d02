import Holdings.Proofs.Amount.Reduction
import Holdings.Proofs.Amount.Representable
import Holdings.Proofs.Text.Ends

/-!
# From smallest units to whole units and back

An amount that can be read at all is written as the one plain decimal number
that denotes it in whole units, as long as there is a context for its digits and
its decimals.  For such a context holds the amount over the power of ten, so that
neither scaling nor reducing it rounds.  The text that is written reads back as
the amount, since a plain decimal number is read digit by digit and scaling it by
the decimals leaves no fraction.
-/

namespace Holdings.Amount

open Holdings.Text
open Outcome

/-! ## Reading the text of a plain decimal number -/

theorem spellsDigits_of_areDigits
    {digits : List Char}
    (areDigits : AreDigits digits) :
    Numeral.SpellsDigits digits (digits.map asciiDigitValue) := by
  rw [Numeral.SpellsDigits, List.forall₂_map_right_iff, List.forall₂_same]
  exact fun character member => digitValue?_of_isDigit (areDigits character member)

/-- Leading zeros can be dropped before or after the digits are read. -/
theorem dropWhile_map_asciiDigitValue
    {digits : List Char}
    (areDigits : AreDigits digits) :
    (digits.map asciiDigitValue).dropWhile (· = 0) =
      (digits.dropWhile (· = '0')).map asciiDigitValue := by
  induction digits with
  | nil =>
      rfl
  | cons first rest induction =>
      rw [areDigits_cons] at areDigits
      have sameTest := asciiDigitValue_eq_zero_iff areDigits.1
      by_cases isZero : first = '0'
      · simp [isZero, induction areDigits.2, asciiDigitValue]
      · simp [isZero, sameTest]

namespace PlainDecimal

/-- The digits of a number without the zeros in front of them. -/
def significant
    (number : PlainDecimal) :
    List Char :=
  (number.whole ++ number.places).dropWhile (· = '0')

theorem areDigits_significant
    (number : PlainDecimal) :
    AreDigits number.significant := by
  intro character member
  exact number.areDigits character ((List.dropWhile_sublist _).mem member)

theorem digitsValue_dropWhile_zero
    (digits : List Char) :
    digitsValue (digits.dropWhile (· = '0')) = digitsValue digits := by
  induction digits with
  | nil =>
      rfl
  | cons first rest induction =>
      by_cases isZero : first = '0'
      · rw [List.dropWhile_cons_of_pos (by simpa using isZero), induction, isZero,
          digitsValue_cons]
        simp [asciiDigitValue]
      · rw [List.dropWhile_cons_of_neg (by simpa using isZero)]

theorem digitsValue_significant
    (number : PlainDecimal) :
    digitsValue number.significant = number.size :=
  digitsValue_dropWhile_zero _

/-- A number other than zero has as many significant digits as its size has. -/
theorem length_significant
    (number : PlainDecimal)
    (notZero : number.size ≠ 0) :
    number.significant.length = digitCount number.size := by
  have value := number.digitsValue_significant
  have starts := List.head?_dropWhile_not (· = '0') (number.whole ++ number.places)
  cases digits : number.significant with
  | nil =>
      rw [digits] at value
      exact absurd value.symm notZero
  | cons first rest =>
      have areDigits := number.areDigits_significant
      rw [digits] at areDigits value
      have firstNotZero : first ≠ '0' := by
        rw [significant] at digits
        simpa [digits] using starts
      rw [← value]
      exact length_eq_digitCount areDigits firstNotZero

theorem significant_eq_nil
    (number : PlainDecimal)
    (isZero : number.size = 0) :
    number.significant = [] := by
  cases digits : number.significant with
  | nil =>
      rfl
  | cons first rest =>
      have starts := List.head?_dropWhile_not (· = '0') (number.whole ++ number.places)
      have areDigits := number.areDigits_significant
      have value := number.digitsValue_significant
      rw [digits] at areDigits value
      have firstNotZero : first ≠ '0' := by
        rw [significant] at digits
        simpa [digits] using starts
      have large := pow_le_digitsValue rest (areDigits first (by simp)) firstNotZero
      have positive : 0 < 10 ^ rest.length := by
        positivity
      omega

/-- A number as the reader of numerals holds it. -/
def numeral
    (number : PlainDecimal) :
    Numeral where
  negative := false
  digits := number.significant.map asciiDigitValue
  exponent := -(number.places.length : Int)

@[simp]
theorem coefficient_numeral
    (number : PlainDecimal) :
    number.numeral.coefficient = number.size := by
  rw [← digitsValue_significant, ← ofDigits_map_asciiDigitValue]
  rfl

/-- The reader counts as many digits as the size of a number has; zero has one. -/
theorem length_numeral
    (number : PlainDecimal) :
    number.numeral.length = digitCount number.size := by
  rw [Numeral.length, numeral, List.length_map]
  by_cases isZero : number.size = 0
  · rw [number.significant_eq_nil isZero, isZero]
    rfl
  · have positive : 0 < digitCount number.size := Nat.length_toDigits_pos
    rw [number.length_significant isZero]
    omega

theorem spellsPlaces_text
    (number : PlainDecimal) :
    Numeral.SpellsPlaces number.text.toList
      (number.whole.map asciiDigitValue) (number.places.map asciiDigitValue) := by
  have whole := spellsDigits_of_areDigits number.areDigits_whole
  have places := spellsDigits_of_areDigits number.areDigits_places
  rw [text, String.toList_ofList]
  by_cases noPlaces : number.places = []
  · rw [if_pos noPlaces, List.append_nil, noPlaces]
    exact .whole whole
  · rw [if_neg noPlaces]
    exact .pointed whole places

theorem mem_text
    {number : PlainDecimal}
    {character : Char}
    (member : character ∈ number.text.toList) :
    character.isDigit = true ∨ character = '.' := by
  rw [text, String.toList_ofList] at member
  by_cases noPlaces : number.places = []
  · rw [if_pos noPlaces, List.append_nil] at member
    exact .inl (number.areDigits_whole character member)
  · rw [if_neg noPlaces, List.mem_append, List.mem_cons] at member
    rcases member with inWhole | isPoint | inPlaces
    · exact .inl (number.areDigits_whole character inWhole)
    · exact .inr isPoint
    · exact .inl (number.areDigits_places character inPlaces)

/-- Nothing in the text of a number is skipped before it is read. -/
theorem cleaned_text
    (number : PlainDecimal) :
    (trimList number.text.toList).filter (· ≠ '_') = number.text.toList := by
  have noBlank : ∀ character ∈ number.text.toList, isBlank character = false := by
    intro character member
    rcases mem_text member with digit | rfl
    · exact not_isBlank_of_isDigit digit
    · decide
  rw [trimList, stripEnds_eq_self noBlank, List.filter_eq_self]
  intro character member
  rcases mem_text member with digit | rfl
  · have notLine : character ≠ '_' := by
      rintro rfl
      exact absurd digit (by decide)
    simpa using notLine
  · decide

theorem spells_text
    (number : PlainDecimal) :
    Numeral.Spells number.text.toList number.numeral := by
  have someDigit :
      number.whole.map asciiDigitValue ++ number.places.map asciiDigitValue ≠ [] := by
    simp [number.whole_ne_nil]
  have digits :
      (number.whole.map asciiDigitValue ++ number.places.map asciiDigitValue).dropWhile
          (· = 0) =
        number.significant.map asciiDigitValue := by
    rw [← List.map_append]
    exact dropWhile_map_asciiDigitValue number.areDigits
  have spells := Numeral.Spells.numeral .unsigned number.spellsPlaces_text someDigit .absent
  rw [digits, List.length_map, Int.zero_sub, List.nil_append, List.append_nil] at spells
  exact spells

/-- The text of a number spells the number, unless it is too long for any numeral. -/
theorem isSpelledBy_text
    (number : PlainDecimal)
    (isKept : number.numeral.isKept = true) :
    number.numeral.IsSpelledBy number.text := by
  refine ⟨?_, isKept⟩
  rw [cleaned_text]
  exact number.spells_text

theorem value_numeral
    (number : PlainDecimal) :
    number.numeral.value = number.value := by
  have magnitude : number.numeral.value = number.numeral.magnitude := rfl
  have exponent : number.numeral.exponent = -(number.places.length : ℤ) := rfl
  rw [magnitude, Numeral.magnitude, coefficient_numeral, exponent, zpow_neg, zpow_natCast, value,
    div_eq_mul_inv]

end PlainDecimal

/-! ## Writing and reading back -/

theorem wholeUnits_zero
    (decimals : Nat) :
    wholeUnits 0 decimals = "0" := by
  let zero : PlainDecimal :=
    { whole := ['0']
      places := []
      areDigits_whole := by simp
      areDigits_places := by simp
      whole_ne_nil := by simp
      hasNoLeadingZero := fun _ => rfl
      last_places_ne_zero := by simp }
  have zeroValue : zero.value = ((0 : Nat) : ℚ) / 10 ^ decimals := by
    rw [PlainDecimal.value_eq_iff]
    simp [zero, PlainDecimal.size, digitsValue_cons, asciiDigitValue]
  have same := PlainDecimal.eq_of_value_eq (PlainDecimal.value_ofAmount 0 decimals) zeroValue
  rw [← PlainDecimal.text_ofAmount, same]
  rfl

/-- An amount over a power of ten, as it is computed with. -/
def dividedAmount
    (amount decimals : Nat) :
    Decimal :=
  ⟨amount, -decimals⟩

theorem value_dividedAmount
    (amount decimals : Nat) :
    (dividedAmount amount decimals).value = (amount : ℚ) / 10 ^ decimals := by
  rw [Decimal.value, dividedAmount, zpow_neg, zpow_natCast, div_eq_mul_inv]

/-- The context for the digits of an amount and its decimals holds the amount over their power. -/
theorem holds_dividedAmount
    {amount : Nat}
    (printable : amount < 10 ^ numeralLimit)
    (decimals : Nat) :
    Context.Holds ⟨digitCount amount + decimals + 2⟩ (dividedAmount amount decimals) := by
  have few : digitCount amount ≤ numeralLimit := (digitCount_le_iff (by decide)).2 printable
  have length : (dividedAmount amount decimals).length = digitCount amount := rfl
  have exponent : (dividedAmount amount decimals).exponent = -(decimals : Int) := rfl
  unfold numeralLimit at few
  constructor
  · rw [length]
    dsimp only
    omega
  · rw [length, exponent, scaledExponentCap]
    omega
  · simp only [exponent, Context.smallestExponent, scaledExponentCap]
    omega

/-- Dividing an amount by the power of ten of its decimals is exact. -/
theorem scaleBy_neg
    {amount : Nat}
    (printable : amount < 10 ^ numeralLimit)
    (decimals : Nat) :
    Context.scaleBy ⟨digitCount amount + decimals + 2⟩ ⟨amount, 0⟩ (-decimals) =
      .ok (dividedAmount amount decimals) := by
  have inRange : ¬ 2 * (scaledExponentCap + ((digitCount amount + decimals + 2 : Nat) : Int)) <
      (-(decimals : Int)).natAbs := by
    simp only [scaledExponentCap, Int.natAbs_neg, Int.natAbs_natCast]
    omega
  have moved : ({ (⟨amount, 0⟩ : Decimal) with exponent := 0 + -(decimals : Int) } : Decimal) =
      dividedAmount amount decimals := by
    rw [Int.zero_add]
    rfl
  rw [Context.scaleBy, if_neg inRange, moved]
  exact (holds_dividedAmount printable decimals).round

/-- An amount is written as its plain decimal number if the precision suffices for it. -/
theorem normalize_eq_text
    {given : Json}
    {amount decimals : Nat}
    (readable : read given = .ok amount)
    (printable : amount < 10 ^ numeralLimit)
    (precise : IsPrecise (digitCount amount) decimals) :
    normalize given decimals = .ok (PlainDecimal.ofAmount amount decimals).text := by
  rw [normalize, checkDecimals_natCast, readable]
  by_cases isZero : amount = 0
  · rw [isZero, PlainDecimal.text_ofAmount, wholeUnits_zero]
    rfl
  · rcases (holds_dividedAmount printable decimals).exists_reduce isZero with
      ⟨reduced, reducesTo, sameValue, noZeroAtEnd⟩
    rcases Decimal.exists_plainText noZeroAtEnd with ⟨plain, sameText, plainValue⟩
    have denotes : plain.value = (amount : ℚ) / 10 ^ decimals := by
      rw [plainValue, sameValue, value_dividedAmount]
    have same := PlainDecimal.eq_of_value_eq denotes (PlainDecimal.value_ofAmount amount decimals)
    simp only [ok_bind, if_neg isZero, Nat.pow_eq, if_neg (Nat.not_le.2 printable),
      forDigits_eq_ok precise, scaleBy_neg printable, reducesTo, sameText, same]
    rfl

/-- The text that is written for an amount reads back as the amount. -/
theorem toSmallestUnit_text
    {number : PlainDecimal}
    {amount decimals : Nat}
    (denotes : number.value = (amount : ℚ) / 10 ^ decimals)
    (printable : amount < 10 ^ numeralLimit)
    (precise : IsPrecise (digitCount amount) decimals) :
    toSmallestUnit (.text number.text) decimals = .ok (decimalText amount) := by
  have fits := PlainDecimal.length_places_le denotes
  have scaled := PlainDecimal.size_mul_pow denotes
  have positive : 0 < digitCount amount := Nat.length_toDigits_pos
  have fewer : number.numeral.length ≤ digitCount amount := by
    rw [PlainDecimal.length_numeral, digitCount_le_iff positive]
    calc
      number.size ≤ number.size * 10 ^ (decimals - number.places.length) := by
        exact Nat.le_mul_of_pos_right _ (by positivity)
      _ = amount := scaled
      _ < 10 ^ digitCount amount := lt_pow_digitCount amount
  have exponent : number.numeral.exponent = -(number.places.length : Int) := rfl
  have isKept : number.numeral.isKept = true := by
    unfold IsPrecise precisionCap at precise
    simp only [Numeral.isKept, Numeral.exponentLimit, Numeral.exponentFloor, exponent,
      Bool.and_eq_true, decide_eq_true_eq]
    omega
  have precise' : IsPrecise number.numeral.length decimals := by
    unfold IsPrecise at precise ⊢
    omega
  have whole : number.numeral.value * 10 ^ decimals = amount := by
    rw [PlainDecimal.value_numeral, denotes, div_mul_cancel₀ _ (by positivity)]
  exact toSmallestUnit_of_whole (number.isSpelledBy_text isKept) precise' whole printable

/--
However an amount was spelled, it is written as the one plain decimal number that denotes it
in whole units, and what is written reads back as the amount.
-/
theorem normalize_exact
    {given : Json}
    {amount decimals : Nat}
    (readable : read given = .ok amount)
    (printable : amount < 10 ^ numeralLimit)
    (precise : IsPrecise (digitCount amount) decimals) :
    ∃ number : PlainDecimal,
      normalize given decimals = .ok number.text ∧
        number.value = (amount : ℚ) / 10 ^ decimals ∧
        number.places.length ≤ decimals ∧
        (∀ other : PlainDecimal,
          other.value = (amount : ℚ) / 10 ^ decimals → other = number) ∧
        toSmallestUnit (.text number.text) decimals = .ok (decimalText amount) := by
  have denotes := PlainDecimal.value_ofAmount amount decimals
  refine ⟨.ofAmount amount decimals, ?_, denotes, ?_, ?_, ?_⟩
  · exact normalize_eq_text readable printable precise
  · exact PlainDecimal.length_places_le denotes
  · intro other otherDenotes
    exact PlainDecimal.eq_of_value_eq otherDenotes denotes
  · exact toSmallestUnit_text denotes printable precise

/-- Fifteen hundred units in hexadecimal, with blanks around them, at three decimals. -/
theorem normalize_exact_hexadecimal :
    ∃ number : PlainDecimal,
      normalize (.text " 0x5DC ") 3 = .ok number.text ∧
        number.value = ((1500 : Nat) : ℚ) / 10 ^ 3 ∧
        number.places.length ≤ 3 ∧
        (∀ other : PlainDecimal,
          other.value = ((1500 : Nat) : ℚ) / 10 ^ 3 → other = number) ∧
        toSmallestUnit (.text number.text) 3 = .ok (decimalText 1500) := by
  have readable : read (.text " 0x5DC ") = .ok 1500 := rfl
  have printable : 1500 < 10 ^ numeralLimit := by
    calc
      1500 < 10 ^ 4 := by decide
      _ ≤ 10 ^ numeralLimit := Nat.pow_le_pow_right (by decide) (by decide)
  have precise : IsPrecise (digitCount 1500) 3 := by
    unfold IsPrecise
    decide
  exact normalize_exact readable printable precise

end Holdings.Amount
