import Holdings.Amount.Context
import Holdings.Proofs.Text.Digits
import Mathlib.Data.List.TakeWhile
import Mathlib.Data.Rat.Cast.CharZero
import Mathlib.Tactic.FieldSimp
import Mathlib.Tactic.NormNum

/-!
# Plain decimal numbers

A plain decimal number is written with digits, behind which a point and further
digits may follow.  It has no sign, no exponent and no zero that could be left
out.  Such a text is determined by the rational number that it denotes.

For an amount of smallest units there is a plain decimal number that denotes the
amount over the power of ten that its decimals tell: its digits are those of the
amount, divided by the point.
-/

namespace Holdings.Amount

open Holdings.Text

/-! ## Zeros at the end of a fraction -/

/-- Drops the zeros at the end of a fraction. -/
def trimFraction
    (fraction : List Char) :
    List Char :=
  (fraction.reverse.dropWhile (· = '0')).reverse

theorem trimFraction_append_zeros
    (fraction : List Char) :
    fraction = trimFraction fraction ++
      List.replicate (fraction.reverse.takeWhile (· = '0')).length '0' := by
  have zeros :
      fraction.reverse.takeWhile (· = '0') =
        List.replicate (fraction.reverse.takeWhile (· = '0')).length '0' := by
    apply List.eq_replicate_of_mem
    intro character member
    simpa using List.mem_takeWhile_imp member
  have split := congrArg List.reverse
    (List.takeWhile_append_dropWhile (p := (· = '0')) (l := fraction.reverse))
  rw [List.reverse_append, List.reverse_reverse, zeros, List.reverse_replicate] at split
  exact split.symm

theorem mem_of_mem_trimFraction
    {fraction : List Char}
    {character : Char}
    (member : character ∈ trimFraction fraction) :
    character ∈ fraction := by
  rw [trimFraction_append_zeros fraction]
  exact List.mem_append_left _ member

theorem getLast?_trimFraction_ne_zero
    (fraction : List Char) :
    (trimFraction fraction).getLast? ≠ some '0' := by
  intro endsWithZero
  rw [trimFraction, List.getLast?_reverse] at endsWithZero
  have dropped := List.head?_dropWhile_not (· = '0') fraction.reverse
  rw [endsWithZero] at dropped
  simp at dropped

theorem trimFraction_append_replicate
    {fraction : List Char}
    (endsWell : fraction.getLast? ≠ some '0')
    (count : Nat) :
    trimFraction (fraction ++ List.replicate count '0') = fraction := by
  rw [trimFraction, List.reverse_append, List.reverse_replicate, List.dropWhile_append_of_pos]
  · cases reversed : fraction.reverse with
    | nil =>
        simpa using reversed.symm
    | cons last others =>
        have split : fraction = others.reverse ++ [last] := by
          rw [← List.reverse_reverse fraction, reversed, List.reverse_cons]
        have notZero : last ≠ '0' := by
          rintro rfl
          exact endsWell (by simp [split])
        simp [notZero, split]
  · intro character member
    simpa using List.eq_of_mem_replicate member

/-! ## Numbers without superfluous zeros -/

/-- The digits in front of and behind the point of a number without superfluous zeros. -/
structure PlainDecimal where
  whole : List Char
  places : List Char
  areDigits_whole : AreDigits whole
  areDigits_places : AreDigits places
  whole_ne_nil : whole ≠ []
  hasNoLeadingZero : HasNoLeadingZero whole
  last_places_ne_zero : places.getLast? ≠ some '0'

namespace PlainDecimal

/-- The text of a number; a number without places has no point. -/
def text
    (number : PlainDecimal) :
    String :=
  String.ofList (number.whole ++ if number.places = [] then [] else '.' :: number.places)

/-- The integer that all digits form, the point being left out. -/
def size
    (number : PlainDecimal) :
    Nat :=
  digitsValue (number.whole ++ number.places)

/-- The rational number that is denoted. -/
def value
    (number : PlainDecimal) :
    ℚ :=
  number.size / 10 ^ number.places.length

@[ext]
theorem ext
    {left right : PlainDecimal}
    (whole : left.whole = right.whole)
    (places : left.places = right.places) :
    left = right := by
  cases left
  cases right
  cases whole
  cases places
  rfl

theorem text_eq_joinPoint
    (number : PlainDecimal) :
    number.text = joinPoint number.whole number.places := by
  unfold text joinPoint
  by_cases noPlaces : number.places = []
  · simp [noPlaces]
  · simp [noPlaces]

theorem areDigits
    (number : PlainDecimal) :
    AreDigits (number.whole ++ number.places) :=
  (areDigits_append _ _).2 ⟨number.areDigits_whole, number.areDigits_places⟩

theorem size_eq
    (number : PlainDecimal) :
    number.size =
      digitsValue number.whole * 10 ^ number.places.length + digitsValue number.places :=
  digitsValue_append _ _

/-- Equal numbers have equal digits when they are brought to one count of places. -/
theorem value_eq_iff
    (number : PlainDecimal)
    (amount decimals : Nat) :
    number.value = (amount : ℚ) / 10 ^ decimals ↔
      number.size * 10 ^ decimals = amount * 10 ^ number.places.length := by
  have positive (count : Nat) : (10 : ℚ) ^ count ≠ 0 := by
    positivity
  rw [value, div_eq_div_iff (positive _) (positive _)]
  exact_mod_cast Iff.rfl

/-- No places are superfluous: ten does not divide a number that has any. -/
theorem size_mod_ten_ne_zero
    (number : PlainDecimal)
    (hasPlaces : number.places ≠ []) :
    number.size % 10 ≠ 0 := by
  have notEmpty : number.whole ++ number.places ≠ [] := by
    simp [hasPlaces]
  rw [size, Ne, digitsValue_mod_ten_eq_zero_iff number.areDigits notEmpty,
    List.getLast?_append_of_ne_nil _ hasPlaces]
  exact number.last_places_ne_zero

/-- A number of smallest units needs no more places than there are decimals. -/
theorem length_places_le
    {number : PlainDecimal}
    {amount decimals : Nat}
    (denotes : number.value = (amount : ℚ) / 10 ^ decimals) :
    number.places.length ≤ decimals := by
  by_contra more
  have hasPlaces : number.places ≠ [] := by
    intro none
    simp [none] at more
  obtain ⟨extra, split⟩ :
      ∃ extra, number.places.length = decimals + (extra + 1) :=
    ⟨number.places.length - decimals - 1, by omega⟩
  have scaled := (number.value_eq_iff amount decimals).1 denotes
  have factored : number.size * 10 ^ decimals = amount * 10 ^ (extra + 1) * 10 ^ decimals := by
    rw [scaled, split, pow_add]
    ring
  have size : number.size = amount * 10 ^ (extra + 1) :=
    Nat.eq_of_mul_eq_mul_right (by positivity) factored
  apply number.size_mod_ten_ne_zero hasPlaces
  rw [size, pow_succ, ← Nat.mul_assoc, Nat.mul_mod_left]

/-- The amount of smallest units that a number denotes. -/
theorem size_mul_pow
    {number : PlainDecimal}
    {amount decimals : Nat}
    (denotes : number.value = (amount : ℚ) / 10 ^ decimals) :
    number.size * 10 ^ (decimals - number.places.length) = amount := by
  have fits := length_places_le denotes
  have scaled := (number.value_eq_iff amount decimals).1 denotes
  have exponent :
      decimals = decimals - number.places.length + number.places.length := by
    omega
  rw [exponent, pow_add, ← Nat.mul_assoc] at scaled
  exact Nat.eq_of_mul_eq_mul_right (by positivity) scaled

/-- Filled up with zeros, a number has as many places as there are decimals. -/
theorem expand_eq
    {number : PlainDecimal}
    {amount decimals : Nat}
    (denotes : number.value = (amount : ℚ) / 10 ^ decimals) :
    digitsValue number.whole * 10 ^ decimals +
        digitsValue number.places * 10 ^ (decimals - number.places.length) =
      amount := by
  have fits := length_places_le denotes
  have sized := size_mul_pow denotes
  rw [size_eq, Nat.add_mul, Nat.mul_assoc, ← pow_add] at sized
  rwa [Nat.add_sub_cancel' fits] at sized

theorem expanded_places_lt
    (number : PlainDecimal)
    {decimals : Nat}
    (fits : number.places.length ≤ decimals) :
    digitsValue number.places * 10 ^ (decimals - number.places.length) < 10 ^ decimals := by
  have bound := digitsValue_lt number.areDigits_places
  calc
    digitsValue number.places * 10 ^ (decimals - number.places.length)
        < 10 ^ number.places.length * 10 ^ (decimals - number.places.length) := by
      exact Nat.mul_lt_mul_of_pos_right bound (by positivity)
    _ = 10 ^ decimals := by
      rw [← pow_add, Nat.add_sub_cancel' fits]

theorem digitsValue_whole
    {number : PlainDecimal}
    {amount decimals : Nat}
    (denotes : number.value = (amount : ℚ) / 10 ^ decimals) :
    digitsValue number.whole = amount / 10 ^ decimals := by
  have noQuotient := Nat.div_eq_of_lt (number.expanded_places_lt (length_places_le denotes))
  rw [← expand_eq denotes, Nat.mul_comm, Nat.mul_add_div (by positivity), noQuotient,
    Nat.add_zero]

theorem digitsValue_expanded_places
    {number : PlainDecimal}
    {amount decimals : Nat}
    (denotes : number.value = (amount : ℚ) / 10 ^ decimals) :
    digitsValue (number.places ++ List.replicate (decimals - number.places.length) '0') =
      amount % 10 ^ decimals := by
  have small := number.expanded_places_lt (length_places_le denotes)
  rw [digitsValue_append, digitsValue_replicate_zero, List.length_replicate, Nat.add_zero,
    ← expand_eq denotes, Nat.mul_comm (digitsValue number.whole), Nat.mul_add_mod,
    Nat.mod_eq_of_lt small]

/-- A number without superfluous zeros is determined by what it denotes. -/
theorem eq_of_value_eq
    {left right : PlainDecimal}
    {amount decimals : Nat}
    (leftValue : left.value = (amount : ℚ) / 10 ^ decimals)
    (rightValue : right.value = (amount : ℚ) / 10 ^ decimals) :
    left = right := by
  have sameWhole : left.whole = right.whole := by
    rw [eq_decimalDigits left.areDigits_whole left.whole_ne_nil left.hasNoLeadingZero,
      eq_decimalDigits right.areDigits_whole right.whole_ne_nil right.hasNoLeadingZero,
      digitsValue_whole leftValue, digitsValue_whole rightValue]
  have sameExpanded :
      left.places ++ List.replicate (decimals - left.places.length) '0' =
        right.places ++ List.replicate (decimals - right.places.length) '0' := by
    apply eq_of_digitsValue_eq
    · exact (areDigits_append _ _).2
        ⟨left.areDigits_places, areDigits_replicate_zero _⟩
    · exact (areDigits_append _ _).2
        ⟨right.areDigits_places, areDigits_replicate_zero _⟩
    · simp [length_places_le leftValue, length_places_le rightValue]
    · rw [digitsValue_expanded_places leftValue, digitsValue_expanded_places rightValue]
  have trim (number : PlainDecimal) (count : Nat) :
      trimFraction (number.places ++ List.replicate count '0') = number.places :=
    trimFraction_append_replicate number.last_places_ne_zero count
  apply PlainDecimal.ext sameWhole
  rw [← trim left (decimals - left.places.length), sameExpanded, trim]

end PlainDecimal

/-! ## The number of an amount -/

/-- The digits of `amount / 10 ^ decimals` with a point, without superfluous zeros. -/
def wholeUnits
    (amount decimals : Nat) :
    String :=
  let digits := decimalDigits amount
  let padded := List.replicate (decimals + 1 - digits.length) '0' ++ digits
  let split := padded.length - decimals
  joinPoint (padded.take split) (trimFraction (padded.drop split))

/-- The digits of an amount, with zeros in front where there are fewer than places. -/
def paddedDigits
    (amount decimals : Nat) :
    List Char :=
  List.replicate (decimals + 1 - digitCount amount) '0' ++ decimalDigits amount

theorem areDigits_paddedDigits
    (amount decimals : Nat) :
    AreDigits (paddedDigits amount decimals) :=
  (areDigits_append _ _).2 ⟨areDigits_replicate_zero _, areDigits_decimalDigits _⟩

@[simp]
theorem digitsValue_paddedDigits
    (amount decimals : Nat) :
    digitsValue (paddedDigits amount decimals) = amount := by
  simp [paddedDigits, digitsValue_append]

theorem length_paddedDigits
    (amount decimals : Nat) :
    (paddedDigits amount decimals).length = max (decimals + 1) (digitCount amount) := by
  have count : (decimalDigits amount).length = digitCount amount := rfl
  simp only [paddedDigits, List.length_append, List.length_replicate, count]
  omega

/-- The digits that stand in front of the point. -/
def wholeDigits
    (amount decimals : Nat) :
    List Char :=
  (paddedDigits amount decimals).take ((paddedDigits amount decimals).length - decimals)

/-- The digits that stand behind the point, zeros at the end included. -/
def fractionDigits
    (amount decimals : Nat) :
    List Char :=
  (paddedDigits amount decimals).drop ((paddedDigits amount decimals).length - decimals)

theorem wholeDigits_append_fractionDigits
    (amount decimals : Nat) :
    wholeDigits amount decimals ++ fractionDigits amount decimals =
      paddedDigits amount decimals :=
  List.take_append_drop _ _

theorem length_fractionDigits
    (amount decimals : Nat) :
    (fractionDigits amount decimals).length = decimals := by
  have length := length_paddedDigits amount decimals
  simp only [fractionDigits, List.length_drop]
  omega

theorem wholeDigits_ne_nil
    (amount decimals : Nat) :
    wholeDigits amount decimals ≠ [] := by
  have length := length_paddedDigits amount decimals
  apply List.ne_nil_of_length_pos
  simp only [wholeDigits, List.length_take]
  omega

theorem hasNoLeadingZero_wholeDigits
    (amount decimals : Nat) :
    HasNoLeadingZero (wholeDigits amount decimals) := by
  have length := length_paddedDigits amount decimals
  intro startsWithZero
  by_cases short : digitCount amount ≤ decimals
  · -- One of the zeros in front is all that is left before the point.
    have single : (paddedDigits amount decimals).length - decimals = 1 := by
      omega
    obtain ⟨zeros, more⟩ : ∃ zeros, decimals + 1 - digitCount amount = zeros + 1 :=
      ⟨decimals - digitCount amount, by omega⟩
    rw [wholeDigits, single, paddedDigits, more, List.replicate_succ]
    rfl
  · have noPadding : paddedDigits amount decimals = decimalDigits amount := by
      have none : decimals + 1 - digitCount amount = 0 := by
        omega
      simp [paddedDigits, none]
    have headZero : (decimalDigits amount).head? = some '0' := by
      rw [wholeDigits, List.head?_take, noPadding] at startsWithZero
      split at startsWithZero
      · simp at startsWithZero
      · exact startsWithZero
    have single := hasNoLeadingZero_decimalDigits amount headZero
    have count : digitCount amount = 1 := by
      simp [digitCount, single]
    have noDecimals : decimals = 0 := by
      omega
    rw [wholeDigits, noPadding, single, noDecimals]
    rfl

/-- An amount over a power of ten, as a number without superfluous zeros. -/
def PlainDecimal.ofAmount
    (amount decimals : Nat) :
    PlainDecimal where
  whole := wholeDigits amount decimals
  places := trimFraction (fractionDigits amount decimals)
  areDigits_whole := by
    intro character member
    exact areDigits_paddedDigits amount decimals character (List.mem_of_mem_take member)
  areDigits_places := by
    intro character member
    exact areDigits_paddedDigits amount decimals character
      (List.mem_of_mem_drop (mem_of_mem_trimFraction member))
  whole_ne_nil := wholeDigits_ne_nil amount decimals
  hasNoLeadingZero := hasNoLeadingZero_wholeDigits amount decimals
  last_places_ne_zero := getLast?_trimFraction_ne_zero _

namespace PlainDecimal

theorem text_ofAmount
    (amount decimals : Nat) :
    (ofAmount amount decimals).text = wholeUnits amount decimals :=
  text_eq_joinPoint _

theorem value_ofAmount
    (amount decimals : Nat) :
    (ofAmount amount decimals).value = (amount : ℚ) / 10 ^ decimals := by
  obtain ⟨zeros, split⟩ :
      ∃ zeros, fractionDigits amount decimals =
        trimFraction (fractionDigits amount decimals) ++ List.replicate zeros '0' :=
    ⟨_, trimFraction_append_zeros _⟩
  have length := length_fractionDigits amount decimals
  have all := wholeDigits_append_fractionDigits amount decimals
  rw [split, List.length_append, List.length_replicate] at length
  rw [split, ← List.append_assoc] at all
  have digits := congrArg digitsValue all
  rw [digitsValue_append, digitsValue_replicate_zero, List.length_replicate,
    digitsValue_paddedDigits, Nat.add_zero] at digits
  have size : (ofAmount amount decimals).size * 10 ^ zeros = amount := digits
  have places : (ofAmount amount decimals).places.length + zeros = decimals := length
  rw [value_eq_iff]
  calc
    (ofAmount amount decimals).size * 10 ^ decimals
        = (ofAmount amount decimals).size *
          10 ^ ((ofAmount amount decimals).places.length + zeros) := by
      rw [places]
    _ = (ofAmount amount decimals).size * 10 ^ zeros *
          10 ^ (ofAmount amount decimals).places.length := by
      rw [pow_add]
      ring
    _ = amount * 10 ^ (ofAmount amount decimals).places.length := by
      rw [size]

end PlainDecimal

end Holdings.Amount
