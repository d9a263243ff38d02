import Holdings.Amount.Units
import Holdings.Json.Access
import Holdings.Proofs.Json.Showable
import Holdings.Proofs.Outcome
import Holdings.Proofs.Text.Digits
import Holdings.Proofs.Text.Ends

/-!
# Amounts in decimal

The decimal text of an amount is read as the amount, as long as it is not too long
for a numeral.  So it makes no difference to what is written in whole units
whether an amount was given as an integer or as its text.
-/

namespace Holdings

open Text

/-! ## Numerals -/

namespace Text

theorem ne_of_isDigit
    {character other : Char}
    (digit : character.isDigit = true)
    (noDigit : other.isDigit = false) :
    character ≠ other := by
  rintro rfl
  rw [digit] at noDigit
  cases noDigit

theorem dividedDigits_of_areDigits
    {digits : List Char}
    (areDigits : AreDigits digits)
    (notEmpty : digits ≠ []) :
    dividedDigits digitValue? digits = some (digits.map asciiDigitValue) :=
  dividedDigits_map
    (fun character member => digitValue?_of_isDigit (areDigits character member))
    (fun character member => ne_of_isDigit (areDigits character member) rfl)
    notEmpty

theorem readUnsigned_decimalDigits
    {value : Nat}
    (printable : value < 10 ^ numeralLimit) :
    readUnsigned (decimalDigits value) = some value := by
  have notEmpty : decimalDigits value ≠ [] := by
    simp [decimalDigits]
  have fits : (decimalDigits value).length ≤ numeralLimit :=
    (digitCount_le_iff (by decide)).2 printable
  rw [readUnsigned, dividedDigits_of_areDigits (areDigits_decimalDigits value) notEmpty,
    Option.bind_some, List.length_map, if_pos fits, ofDigits_map_asciiDigitValue,
    digitsValue_decimalDigits]

theorem readSigned_decimalDigits
    {value : Nat}
    (printable : value < 10 ^ numeralLimit) :
    readSigned (decimalDigits value) = some (value : Int) := by
  have areDigits := areDigits_decimalDigits value
  have unsigned := readUnsigned_decimalDigits printable
  unfold readSigned
  split
  · rename_i rest same
    exact absurd (areDigits '-' (by simp [same])) (by decide)
  · rename_i rest same
    exact absurd (areDigits '+' (by simp [same])) (by decide)
  · rw [unsigned]
    rfl

theorem afterHexMark_of_areDigits
    {digits : List Char}
    (areDigits : AreDigits digits) :
    afterHexMark digits = none := by
  unfold afterHexMark
  split
  · exact absurd (areDigits 'x' (by simp)) (by decide)
  · exact absurd (areDigits 'X' (by simp)) (by decide)
  · rfl

end Text

/-! ## Amounts -/

namespace Amount

theorem decimalText_ne_empty
    (amount : Nat) :
    decimalText amount ≠ "" := by
  intro empty
  have none : decimalDigits amount = [] := by
    simpa [decimalText] using congrArg String.toList empty
  simp [decimalDigits] at none

theorem decimalText_injective :
    Function.Injective decimalText := by
  intro left right same
  have digits : decimalDigits left = decimalDigits right := by
    simpa [decimalText] using congrArg String.toList same
  have values := congrArg digitsValue digits
  rwa [digitsValue_decimalDigits, digitsValue_decimalDigits] at values

theorem isShowable_int
    {amount : Nat}
    (printable : amount < 10 ^ numeralLimit) :
    (Json.int amount).isShowable = true := by
  have sameLimit : numeralLimit = Json.digitLimit := rfl
  rw [sameLimit] at printable
  rwa [Json.isShowable_int_iff, Int.natAbs_natCast]

/-- An amount that is not too long is printed in decimal, whatever marks objects would have. -/
theorem printIn_int
    {amount : Nat}
    (printable : amount < 10 ^ numeralLimit)
    (marks : Json.ObjectMarks) :
    Json.printIn marks (.int amount) = .ok (decimalText amount) := by
  rw [Json.printIn, if_pos (isShowable_int printable)]
  rfl

theorem print_int
    {amount : Nat}
    (printable : amount < 10 ^ numeralLimit) :
    Json.print (.int amount) = .ok (decimalText amount) :=
  printIn_int printable Json.plainMarks

theorem print_of_lt
    {amount : Nat}
    (printable : amount < 10 ^ numeralLimit) :
    print amount = .ok (decimalText amount) := by
  have within (limit : Nat) (fits : amount < 10 ^ limit) : amount < Nat.pow 10 limit := fits
  rw [print, if_pos (within _ printable)]

theorem print_eq_ok_iff
    {amount : Nat}
    {written : String} :
    print amount = .ok written ↔ amount < 10 ^ numeralLimit ∧ written = decimalText amount := by
  by_cases printable : amount < 10 ^ numeralLimit
  · rw [print_of_lt printable]
    simp [printable, eq_comm]
  · rw [print, Nat.pow_eq, if_neg printable]
    simp [printable]

/-- An amount that is too long to be printed is an unacceptable value. -/
theorem failsOnlyWith_print
    (amount : Nat) :
    Outcome.FailsOnlyWith .value (print amount) := by
  unfold print
  split
  · exact .ok _
  · exact .error rfl

theorem read_decimalText
    {amount : Nat}
    (printable : amount < 10 ^ numeralLimit) :
    read (.text (decimalText amount)) = .ok amount := by
  have areDigits := areDigits_decimalDigits amount
  have noBlank : ∀ character ∈ decimalDigits amount, isBlank character = false :=
    fun character member => not_isBlank_of_isDigit (areDigits character member)
  have noGap : ∀ character ∈ decimalDigits amount, isNumeralGap character = false := by
    intro character member
    rw [isNumeralGap, noBlank character member, Bool.false_and]
  have trimmed : trimList (decimalText amount).toList = decimalDigits amount := by
    rw [decimalText, String.toList_ofList, trimList, stripEnds_eq_self noBlank]
  have notEmpty : (decimalDigits amount).isEmpty = false := by
    simp [decimalDigits]
  have integer : readTrimmed (decimalDigits amount) = some (amount : Int) := by
    rw [readTrimmed, afterHexMark_of_areDigits areDigits, readInteger, String.toList_ofList,
      stripEnds_eq_self noGap, readSigned_decimalDigits printable]
  rw [read_text, ofText, trimmed, notEmpty, integer]
  simp [checkSign]

/-- An amount that can be printed is read and printed again. -/
theorem read_print
    {amount : Nat}
    (printable : amount < 10 ^ numeralLimit) :
    (read (.text (decimalText amount)) >>= print) = .ok (decimalText amount) := by
  rw [read_decimalText printable, Outcome.ok_bind, print_of_lt printable]

/-- An amount that has a text in whole units is short enough to be printed. -/
theorem printable_of_normalize
    {amount : Nat}
    {decimals : Int}
    {written : String}
    (normalized : normalize (.int amount) decimals = .ok written) :
    amount < 10 ^ numeralLimit := by
  rw [normalize] at normalized
  rcases Outcome.bind_eq_ok.1 normalized with ⟨places, -, later⟩
  rw [read_natural] at later
  by_contra tooLong
  have notZero : amount ≠ 0 := by
    rintro rfl
    exact tooLong (Nat.pow_pos (by decide))
  have long (limit : Nat) (large : ¬ amount < 10 ^ limit) : Nat.pow 10 limit ≤ amount :=
    Nat.le_of_not_lt large
  simp only [bind, Except.bind, if_neg notZero, if_pos (long _ tooLong)] at later
  cases later

theorem normalize_decimalText
    {amount : Nat}
    {decimals : Int}
    {written : String}
    (normalized : normalize (.int amount) decimals = .ok written) :
    normalize (.text (decimalText amount)) decimals = .ok written := by
  rw [← normalized, normalize, normalize, read_natural,
    read_decimalText (printable_of_normalize normalized)]

end Amount

end Holdings
