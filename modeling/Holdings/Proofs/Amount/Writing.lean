import Holdings.Proofs.Amount.Decimal
import Holdings.Proofs.Amount.RoundTrip
import Holdings.Proofs.Outcome

/-!
# Writing amounts

An amount is written in whole units or in the smallest ones, and the latter is like the former
without places.  It ends in one of three ways.  What is an amount that is not too long for a text
or for the working precision is written, and everything else is refused as an unacceptable value,
but for an amount that would have to be divided in a precision that no machine word holds.
-/

namespace Holdings

open Outcome

/-! ## Faults of amounts -/

namespace Fault

theorem kind_naming
    {given : Json}
    {fault : Fault}
    (isValue : fault.kind = .value) :
    (naming given fault).kind = .value := by
  unfold naming
  split
  · exact isValue
  · rfl

end Fault

namespace Amount

open Holdings.Text

theorem kind_of_checkSign
    {given : Json}
    {amount : Int}
    {fault : Fault}
    (refused : checkSign given amount = .error fault) :
    fault.kind = .value := by
  unfold checkSign at refused
  split at refused
  · cases refused
    exact Fault.kind_naming rfl
  · cases refused

/-- What is no amount is an unacceptable value. -/
theorem kind_of_read
    {given : Json}
    {fault : Fault}
    (refused : read given = .error fault) :
    fault.kind = .value := by
  have ofValue {other : Json} {amount : Except Fault Nat}
      (same : amount = .error (Fault.naming other (.invalidAmount other)))
      (refused : amount = .error fault) :
      fault.kind = .value := by
    cases same.symm.trans refused
    exact Fault.kind_naming rfl
  cases given with
  | null =>
      cases refused
  | int amount =>
      exact kind_of_checkSign refused
  | text written =>
      rw [read_text, ofText] at refused
      split at refused
      · cases refused
      · split at refused
        · exact kind_of_checkSign refused
        · cases refused
          rfl
  | bool value =>
      exact ofValue rfl refused
  | double value =>
      exact ofValue rfl refused
  | array items =>
      exact ofValue rfl refused
  | object members =>
      exact ofValue rfl refused

/-! ## Texts of amounts -/

/-- An amount that can be printed and has moderate decimals does not exhaust the precision. -/
theorem isPrecise_of_lt
    {amount decimals : Nat}
    (printable : amount < 10 ^ numeralLimit)
    (moderate : (decimals : Int) + numeralLimit + 2 ≤ precisionCap) :
    IsPrecise (digitCount amount) decimals := by
  have digits : digitCount amount ≤ numeralLimit :=
    (digitCount_le_iff (by decide)).2 printable
  unfold IsPrecise
  omega

/-- Without decimals an amount is written digit by digit. -/
theorem wholeUnits_no_decimals
    (amount : Nat) :
    wholeUnits amount 0 = decimalText amount := by
  have positive : 0 < (decimalDigits amount).length := Nat.length_toDigits_pos
  have noPadding : 0 + 1 - (decimalDigits amount).length = 0 := by
    omega
  simp only [wholeUnits, noPadding, List.replicate_zero, List.nil_append, Nat.sub_zero,
    List.take_length, List.drop_length]
  rfl

theorem PlainDecimal.places_ofAmount_zero
    (amount : Nat) :
    (PlainDecimal.ofAmount amount 0).places = [] := by
  have fits := PlainDecimal.length_places_le (PlainDecimal.value_ofAmount amount 0)
  exact List.eq_nil_of_length_eq_zero (Nat.le_zero.mp fits)

/-- An amount that can be printed, and that the working precision suffices to divide. -/
def IsWritable
    (amount places : Nat) :
    Prop :=
  amount < 10 ^ numeralLimit ∧ (amount = 0 ∨ IsPrecise (digitCount amount) places)

/-- An amount that can be printed, but only divided in a precision that is no machine word. -/
def Outgrows
    (amount places : Nat) :
    Prop :=
  amount ≠ 0 ∧ amount < 10 ^ numeralLimit ∧ wordCap < digitCount amount + places + 2

/--
The text for what is given: an amount is written over a power of ten, and zero stands for
everything that is no amount or cannot be written.
-/
structure IsTextOf
    (given : Json)
    (places : Nat)
    (text : String) :
    Prop where
  denotes : ∀ amount,
    read given = .ok amount → IsWritable amount places →
      ∃ number : PlainDecimal,
        text = number.text ∧ number.value = (amount : ℚ) / 10 ^ places
  standsIn :
    (∀ amount, read given = .ok amount → ¬ IsWritable amount places) → text = "0"

/-- How writing an amount may end. -/
inductive WritesTo
    (given : Json)
    (places : Nat) :
    Except Fault String → Prop where
  | written
      {amount : Nat}
      (readable : read given = .ok amount)
      (writable : IsWritable amount places) :
      WritesTo given places (.ok (PlainDecimal.ofAmount amount places).text)
  | refused
      {fault : Fault}
      (isValue : fault.kind = .value)
      (unwritable : ∀ amount, read given = .ok amount → ¬ IsWritable amount places)
      (fits : ∀ amount, read given = .ok amount → ¬ Outgrows amount places) :
      WritesTo given places (.error fault)
  | outgrown
      {amount : Nat}
      (readable : read given = .ok amount)
      (outgrows : Outgrows amount places) :
      WritesTo given places (.error .precisionOverflow)

section Writing

variable {given : Json} {amount places : Nat}

theorem isTextOf_of_isWritable
    (readable : read given = .ok amount)
    (writable : IsWritable amount places) :
    IsTextOf given places (PlainDecimal.ofAmount amount places).text where
  denotes := by
    intro other otherReadable _
    cases readable.symm.trans otherReadable
    exact ⟨_, rfl, PlainDecimal.value_ofAmount amount places⟩
  standsIn := fun unwritable => absurd writable (unwritable amount readable)

theorem isTextOf_zero
    (unwritable : ∀ amount, read given = .ok amount → ¬ IsWritable amount places) :
    IsTextOf given places "0" where
  denotes := fun amount readable writable => absurd writable (unwritable amount readable)
  standsIn := fun _ => rfl

theorem WritesTo.of_unread
    {fault : Fault}
    (unreadable : read given = .error fault) :
    WritesTo given places (.error fault) := by
  apply WritesTo.refused (kind_of_read unreadable)
  · intro amount readable
    cases unreadable.symm.trans readable
  · intro amount readable
    cases unreadable.symm.trans readable

theorem WritesTo.of_read
    {fault : Fault}
    (readable : read given = .ok amount)
    (isValue : fault.kind = .value)
    (unwritable : ¬ IsWritable amount places)
    (fits : ¬ Outgrows amount places) :
    WritesTo given places (.error fault) := by
  apply WritesTo.refused isValue
  · intro other otherReadable
    cases readable.symm.trans otherReadable
    exact unwritable
  · intro other otherReadable
    cases readable.symm.trans otherReadable
    exact fits

theorem WritesTo.of_tooLong
    (readable : read given = .ok amount)
    (long : 10 ^ numeralLimit ≤ amount) :
    WritesTo given places (.error .digitLimit) :=
  .of_read readable rfl
    (fun writable => absurd writable.1 (Nat.not_lt.2 long))
    (fun outgrows => absurd outgrows.2.1 (Nat.not_lt.2 long))

/-- An amount other than zero is divided in the context for it, if there is one. -/
theorem normalize_of_not_precise
    {fault : Fault}
    (readable : read given = .ok amount)
    (notZero : amount ≠ 0)
    (printable : amount < 10 ^ numeralLimit)
    (none : Context.forDigits (digitCount amount) places = .error fault) :
    normalize given places = .error fault := by
  rw [normalize, checkDecimals_natCast, ok_bind, readable, ok_bind, if_neg notZero, Nat.pow_eq,
    if_neg (Nat.not_le.2 printable), none]
  rfl

/-- Dividing an amount other than zero ends by the precision that it needs. -/
theorem writesTo_of_ne_zero
    (readable : read given = .ok amount)
    (notZero : amount ≠ 0)
    (printable : amount < 10 ^ numeralLimit) :
    WritesTo given places (normalize given places) := by
  by_cases beyondWord : wordCap < digitCount amount + places + 2
  · have none : Context.forDigits (digitCount amount) places = .error .precisionOverflow :=
      if_pos beyondWord
    rw [normalize_of_not_precise readable notZero printable none]
    exact .outgrown readable ⟨notZero, printable, beyondWord⟩
  · by_cases beyond : precisionCap < digitCount amount + places + 2
    · have none : Context.forDigits (digitCount amount) places = .error .precisionLimit :=
        (if_neg beyondWord).trans (if_pos beyond)
      rw [normalize_of_not_precise readable notZero printable none]
      apply WritesTo.of_read readable rfl
      · rintro ⟨-, isZero | precise⟩
        · exact notZero isZero
        · exact absurd beyond (Int.not_lt.2 precise)
      · exact fun outgrows => beyondWord outgrows.2.2
    · have precise := Int.not_lt.1 beyond
      rw [normalize_eq_text readable printable precise]
      exact .written readable ⟨printable, .inr precise⟩

theorem not_outgrows
    (writable : IsWritable amount places) :
    ¬ Outgrows amount places := by
  rintro ⟨notZero, -, beyondWord⟩
  rcases writable.2 with isZero | precise
  · exact notZero isZero
  · have cap : precisionCap ≤ wordCap := by decide
    exact absurd (le_trans precise cap) (Int.not_le.2 beyondWord)

/-- Whatever is given, dividing it ends in one of the ways. -/
theorem writesTo_normalize
    (given : Json)
    (places : Nat) :
    WritesTo given places (normalize given places) := by
  cases readable : read given with
  | error fault =>
      have refused : normalize given places = .error fault := by
        rw [normalize, checkDecimals_natCast, ok_bind, readable]
        rfl
      rw [refused]
      exact .of_unread readable
  | ok amount =>
      by_cases isZero : amount = 0
      · have writable : IsWritable amount places := by
          refine ⟨?_, .inl isZero⟩
          rw [isZero]
          exact Nat.pow_pos (by decide)
        have zero : normalize given places = .ok (PlainDecimal.ofAmount amount places).text := by
          rw [normalize, checkDecimals_natCast, ok_bind, readable, ok_bind, if_pos isZero,
            PlainDecimal.text_ofAmount, isZero, wholeUnits_zero]
          rfl
        rw [zero]
        exact .written readable writable
      · by_cases long : 10 ^ numeralLimit ≤ amount
        · have refused : normalize given places = .error .digitLimit := by
            rw [normalize, checkDecimals_natCast, ok_bind, readable, ok_bind, if_neg isZero,
              Nat.pow_eq, if_pos long]
            rfl
          rw [refused]
          exact .of_tooLong readable long
        · exact writesTo_of_ne_zero readable isZero (Nat.lt_of_not_le long)

/-- Without places every amount that can be printed is divided. -/
theorem isWritable_no_places
    (printable : amount < 10 ^ numeralLimit) :
    IsWritable amount 0 :=
  ⟨printable, .inr (isPrecise_of_lt printable (by decide))⟩

/-- Printing an amount ends like dividing it without places. -/
theorem writesTo_print
    (given : Json) :
    WritesTo given 0 (read given >>= print) := by
  cases readable : read given with
  | error fault =>
      exact .of_unread readable
  | ok amount =>
      rw [ok_bind]
      by_cases printable : amount < 10 ^ numeralLimit
      · rw [print_of_lt printable, ← wholeUnits_no_decimals, ← PlainDecimal.text_ofAmount]
        exact .written readable (isWritable_no_places printable)
      · rw [print, Nat.pow_eq, if_neg printable]
        exact .of_tooLong readable (Nat.le_of_not_lt printable)

/-- An amount that can be printed was given in a form that can be printed. -/
theorem isShowable_of_read
    (readable : read given = .ok amount)
    (printable : amount < 10 ^ numeralLimit) :
    given.isShowable = true := by
  cases given with
  | int value =>
      rw [read, checkSign] at readable
      split at readable
      · cases readable
      · rename_i notNegative
        cases readable
        rw [← Int.toNat_of_nonneg (Int.not_lt.1 notNegative)]
        exact isShowable_int printable
  | null | text =>
      rfl
  | bool | double | array | object =>
      cases readable

end Writing

end Amount

end Holdings
