import Holdings.Text.Integer
import Mathlib.Tactic.Ring

/-!
# Decimal digits and the numbers they denote

Digits of ASCII denote a number, the first digit being the highest.  A digit
string of a given length is determined by its number, and one without
superfluous zeros is the decimal text of its number.  The readers of numerals,
which take digits of every script, agree with this on digits of ASCII.
-/

namespace Holdings.Text

/-- The number that digits of ASCII denote. -/
def digitsValue
    (digits : List Char) :
    Nat :=
  Nat.ofDigitChars 10 digits 0

/-- Whether every character is a digit of ASCII. -/
def AreDigits
    (characters : List Char) :
    Prop :=
  ∀ character ∈ characters, character.isDigit = true

/-- The value of one digit of ASCII. -/
def asciiDigitValue
    (character : Char) :
    Nat :=
  character.toNat - '0'.toNat

theorem toNat_of_isDigit
    {character : Char}
    (digit : character.isDigit = true) :
    48 ≤ character.toNat ∧ character.toNat ≤ 57 := by
  simp only [Char.isDigit, Bool.and_eq_true, decide_eq_true_eq] at digit
  exact ⟨digit.1, digit.2⟩

theorem asciiDigitValue_lt
    {character : Char}
    (digit : character.isDigit = true) :
    asciiDigitValue character < 10 := by
  have bounds := toNat_of_isDigit digit
  have zero : '0'.toNat = 48 := rfl
  unfold asciiDigitValue
  omega

theorem asciiDigitValue_eq_zero_iff
    {character : Char}
    (digit : character.isDigit = true) :
    asciiDigitValue character = 0 ↔ character = '0' := by
  have bounds := toNat_of_isDigit digit
  have zero : '0'.toNat = 48 := rfl
  constructor
  · intro noValue
    apply Char.toNat_inj.mp
    unfold asciiDigitValue at noValue
    omega
  · rintro rfl
    rfl

theorem eq_of_asciiDigitValue_eq
    {left right : Char}
    (leftDigit : left.isDigit = true)
    (rightDigit : right.isDigit = true)
    (sameValue : asciiDigitValue left = asciiDigitValue right) :
    left = right := by
  have leftBounds := toNat_of_isDigit leftDigit
  have rightBounds := toNat_of_isDigit rightDigit
  have zero : '0'.toNat = 48 := rfl
  apply Char.toNat_inj.mp
  unfold asciiDigitValue at sameValue
  omega

/-- Among the digits of all scripts, a digit of ASCII has its usual value. -/
theorem digitValue?_of_isDigit
    {character : Char}
    (digit : character.isDigit = true) :
    digitValue? character = some (asciiDigitValue character) := by
  have bounds := toNat_of_isDigit digit
  have inRange : 0x30 ≤ character.toNat ∧ character.toNat < 0x30 + 10 := by
    omega
  simp [digitValue?, digitZeros, inRange, asciiDigitValue]

/-! ## Lists of digits -/

@[simp]
theorem areDigits_nil :
    AreDigits [] := by
  simp [AreDigits]

@[simp]
theorem areDigits_cons
    (character : Char)
    (rest : List Char) :
    AreDigits (character :: rest) ↔ character.isDigit = true ∧ AreDigits rest := by
  simp [AreDigits]

@[simp]
theorem areDigits_append
    (front back : List Char) :
    AreDigits (front ++ back) ↔ AreDigits front ∧ AreDigits back := by
  simp only [AreDigits, List.mem_append]
  constructor
  · intro all
    exact ⟨fun character member => all character (.inl member),
      fun character member => all character (.inr member)⟩
  · rintro ⟨inFront, inBack⟩ character (member | member)
    · exact inFront character member
    · exact inBack character member

theorem areDigits_replicate_zero
    (count : Nat) :
    AreDigits (List.replicate count '0') := by
  intro character member
  rw [List.eq_of_mem_replicate member]
  rfl

@[simp]
theorem digitsValue_nil :
    digitsValue [] = 0 := by
  simp [digitsValue]

theorem digitsValue_append
    (front back : List Char) :
    digitsValue (front ++ back) =
      digitsValue front * 10 ^ back.length + digitsValue back := by
  unfold digitsValue
  rw [Nat.ofDigitChars_append, Nat.ofDigitChars_eq_ofDigitChars_zero, Nat.mul_comm]

theorem digitsValue_cons
    (character : Char)
    (rest : List Char) :
    digitsValue (character :: rest) =
      asciiDigitValue character * 10 ^ rest.length + digitsValue rest := by
  have split := digitsValue_append [character] rest
  have single : digitsValue [character] = asciiDigitValue character := by
    simp [digitsValue, Nat.ofDigitChars_cons, asciiDigitValue]
  rw [single] at split
  exact split

@[simp]
theorem digitsValue_replicate_zero
    (count : Nat) :
    digitsValue (List.replicate count '0') = 0 := by
  simp [digitsValue]

@[simp]
theorem digitsValue_decimalDigits
    (value : Nat) :
    digitsValue (decimalDigits value) = value := by
  simp [digitsValue, decimalDigits]

theorem digitsValue_lt
    {digits : List Char}
    (areDigits : AreDigits digits) :
    digitsValue digits < 10 ^ digits.length := by
  induction digits with
  | nil =>
      simp
  | cons first rest induction =>
      rw [areDigits_cons] at areDigits
      have firstBound := asciiDigitValue_lt areDigits.1
      have restBound := induction areDigits.2
      rw [digitsValue_cons, List.length_cons, pow_succ]
      calc
        asciiDigitValue first * 10 ^ rest.length + digitsValue rest
            < asciiDigitValue first * 10 ^ rest.length + 10 ^ rest.length := by
          omega
        _ = (asciiDigitValue first + 1) * 10 ^ rest.length := by
          ring
        _ ≤ 10 * 10 ^ rest.length := by
          exact Nat.mul_le_mul_right _ firstBound
        _ = 10 ^ rest.length * 10 := by
          ring

/-- The number that a digit at the end adds is the remainder by ten. -/
theorem digitsValue_mod_ten
    (front : List Char)
    {last : Char}
    (digit : last.isDigit = true) :
    digitsValue (front ++ [last]) % 10 = asciiDigitValue last := by
  have bound := asciiDigitValue_lt digit
  rw [digitsValue_append, digitsValue_cons]
  simp only [List.length_nil, List.length_singleton, pow_zero, pow_one, mul_one,
    digitsValue_nil, add_zero]
  omega

/-- Ten divides the number of digits exactly when a zero ends them. -/
theorem digitsValue_mod_ten_eq_zero_iff
    {digits : List Char}
    (areDigits : AreDigits digits)
    (notEmpty : digits ≠ []) :
    digitsValue digits % 10 = 0 ↔ digits.getLast? = some '0' := by
  have digit : (digits.getLast notEmpty).isDigit = true :=
    areDigits _ (List.getLast_mem notEmpty)
  have split := digitsValue_mod_ten digits.dropLast digit
  rw [List.dropLast_concat_getLast notEmpty] at split
  rw [split, List.getLast?_eq_some_getLast notEmpty, Option.some_inj,
    asciiDigitValue_eq_zero_iff digit]

/-- Digits of one length are determined by the number that they denote. -/
theorem eq_of_digitsValue_eq
    {left right : List Char}
    (leftDigits : AreDigits left)
    (rightDigits : AreDigits right)
    (sameLength : left.length = right.length)
    (sameValue : digitsValue left = digitsValue right) :
    left = right := by
  induction left generalizing right with
  | nil =>
      exact (List.eq_nil_of_length_eq_zero sameLength.symm).symm
  | cons first rest induction =>
      cases right with
      | nil =>
          simp at sameLength
      | cons other others =>
          rw [areDigits_cons] at leftDigits rightDigits
          have restLength : rest.length = others.length := by
            simpa using sameLength
          have restBound := digitsValue_lt leftDigits.2
          have othersBound := digitsValue_lt rightDigits.2
          rw [digitsValue_cons, digitsValue_cons, ← restLength] at sameValue
          rw [← restLength] at othersBound
          have firstValue : asciiDigitValue first = asciiDigitValue other := by
            have quotient := congrArg (· / 10 ^ rest.length) sameValue
            simpa [Nat.mul_add_div, Nat.mul_comm, Nat.div_eq_of_lt restBound,
              Nat.div_eq_of_lt othersBound] using quotient
          have restValue : digitsValue rest = digitsValue others := by
            rw [firstValue] at sameValue
            omega
          rw [eq_of_asciiDigitValue_eq leftDigits.1 rightDigits.1 firstValue,
            induction leftDigits.2 rightDigits.2 restLength restValue]

/-! ## What readers make of digits -/

theorem not_isBlank_of_isDigit
    {character : Char}
    (digit : character.isDigit = true) :
    isBlank character = false := by
  have bounds := toNat_of_isDigit digit
  have outside : ∀ range ∈ blanks, range.last < 48 ∨ 57 < range.first := by
    decide
  rw [isBlank, inTable, List.any_eq_false]
  intro range member holds
  rw [CodeRange.holds_iff] at holds
  rcases outside range member with low | high
  · omega
  · omega

theorem ofDigits_map_asciiDigitValue
    (digits : List Char) :
    ofDigits 10 (digits.map asciiDigitValue) = digitsValue digits := by
  rw [ofDigits, digitsValue, Nat.ofDigitChars, List.foldl_map]
  congr 1
  funext value digit
  rw [Nat.mul_comm]
  rfl

/-- Digits that are not divided are read one by one. -/
theorem dividedDigits_map
    {digit? : Char → Option Nat}
    {value : Char → Nat}
    {digits : List Char}
    (each : ∀ character ∈ digits, digit? character = some (value character))
    (undivided : ∀ character ∈ digits, character ≠ '_')
    (notEmpty : digits ≠ []) :
    dividedDigits digit? digits = some (digits.map value) := by
  induction digits with
  | nil =>
      exact absurd rfl notEmpty
  | cons first rest induction =>
      have here := each first List.mem_cons_self
      cases rest with
      | nil =>
          simp [dividedDigits, here]
      | cons second later =>
          have noLine := undivided second (by simp)
          have others := induction
            (fun character member => each character (List.mem_cons_of_mem _ member))
            (fun character member => undivided character (List.mem_cons_of_mem _ member))
            (by simp)
          rw [dividedDigits, here, others]
          · rfl
          · nofun
          · intro rest same
            exact noLine (List.cons.inj same).1

/-! ## Digits without superfluous zeros -/

/-- Whether digits start with no zero, unless they are a single zero. -/
def HasNoLeadingZero
    (digits : List Char) :
    Prop :=
  digits.head? = some '0' → digits = ['0']

theorem areDigits_decimalDigits
    (value : Nat) :
    AreDigits (decimalDigits value) := by
  intro character member
  exact Nat.isDigit_of_mem_toDigits (by decide) (by decide) member

theorem digitCount_pos
    (value : Nat) :
    0 < digitCount value :=
  Nat.length_toDigits_pos

theorem lt_pow_digitCount
    (value : Nat) :
    value < 10 ^ digitCount value := by
  have bound := digitsValue_lt (areDigits_decimalDigits value)
  rwa [digitsValue_decimalDigits] at bound

/-- A number has at most so many digits if it lies below that power of ten. -/
theorem digitCount_le_iff
    {value count : Nat}
    (positive : 0 < count) :
    digitCount value ≤ count ↔ value < 10 ^ count :=
  Nat.length_toDigits_le_iff (by decide) positive

/-- The first of some digits is worth its place. -/
theorem pow_le_digitsValue
    {first : Char}
    (rest : List Char)
    (digit : first.isDigit = true)
    (notZero : first ≠ '0') :
    10 ^ rest.length ≤ digitsValue (first :: rest) := by
  have positive : asciiDigitValue first ≠ 0 := by
    rwa [Ne, asciiDigitValue_eq_zero_iff digit]
  rw [digitsValue_cons]
  calc
    10 ^ rest.length ≤ asciiDigitValue first * 10 ^ rest.length := by
      exact Nat.le_mul_of_pos_left _ (Nat.pos_of_ne_zero positive)
    _ ≤ asciiDigitValue first * 10 ^ rest.length + digitsValue rest := by
      exact Nat.le_add_right _ _

theorem length_eq_digitCount
    {first : Char}
    {rest : List Char}
    (areDigits : AreDigits (first :: rest))
    (notZero : first ≠ '0') :
    (first :: rest).length = digitCount (digitsValue (first :: rest)) := by
  have below := digitsValue_lt areDigits
  have above := pow_le_digitsValue rest (areDigits first (by simp)) notZero
  have atMost : digitCount (digitsValue (first :: rest)) ≤ rest.length + 1 :=
    (digitCount_le_iff (by omega)).2 below
  apply Nat.le_antisymm _ atMost
  by_contra short
  have bound := lt_pow_digitCount (digitsValue (first :: rest))
  have fewer : digitCount (digitsValue (first :: rest)) ≤ rest.length := by
    omega
  have := Nat.pow_le_pow_right (n := 10) (by decide) fewer
  omega

/-- Digits without superfluous zeros are the decimal digits of their number. -/
theorem eq_decimalDigits
    {digits : List Char}
    (areDigits : AreDigits digits)
    (notEmpty : digits ≠ [])
    (noLeadingZero : HasNoLeadingZero digits) :
    digits = decimalDigits (digitsValue digits) := by
  cases digits with
  | nil =>
      exact absurd rfl notEmpty
  | cons first rest =>
      by_cases startsWithZero : first = '0'
      · have single := noLeadingZero (by simp [startsWithZero])
        rw [single]
        rfl
      · exact eq_of_digitsValue_eq areDigits (areDigits_decimalDigits _)
          (length_eq_digitCount areDigits startsWithZero) (by simp)

theorem hasNoLeadingZero_decimalDigits
    (value : Nat) :
    HasNoLeadingZero (decimalDigits value) := by
  induction value using Nat.strong_induction_on with
  | _ value induction =>
      rw [decimalDigits, Nat.toDigits_eq_if (by decide)]
      split
      · intro startsWithZero
        simpa using startsWithZero
      · next large =>
          have smaller := induction (value / 10) (by omega)
          intro startsWithZero
          rw [List.head?_append, Option.or_of_isSome (by simp)] at startsWithZero
          have single : Nat.toDigits 10 (value / 10) = ['0'] := smaller startsWithZero
          have quotient := digitsValue_decimalDigits (value / 10)
          rw [decimalDigits, single] at quotient
          have noQuotient : value / 10 = 0 := by
            rw [← quotient]
            rfl
          omega

end Holdings.Text
