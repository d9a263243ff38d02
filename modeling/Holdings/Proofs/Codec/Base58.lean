import Holdings.Codec.Base58
import Mathlib.Data.List.Induction
import Mathlib.Data.List.TakeWhile
import Mathlib.Tactic.Ring

/-!
# Writing base 58

A number is written with digits of which the first is no zero, so the digits for
zero at the front of a text are just those of the zero bytes.  What is written is
read back, and a string of 32 bytes has no more than 44 digits.
-/

namespace Holdings.Base58

open Holdings.Text

/-! ## Digits -/

/-- What a reader knows of a digit: its value, whether it is zero, and that it is ASCII. -/
theorem digit_spec :
    ∀ value < 58,
      digitValue? (digit value) = some value ∧ (digit value = '1' ↔ value = 0) ∧
        (digit value).toNat < 128 := by
  decide +kernel

theorem digitValue?_digit
    {value : Nat}
    (isDigit : value < 58) :
    digitValue? (digit value) = some value :=
  (digit_spec value isDigit).1

theorem digit_eq_one_iff
    {value : Nat}
    (isDigit : value < 58) :
    digit value = '1' ↔ value = 0 :=
  (digit_spec value isDigit).2.1

theorem toNat_digit_lt
    {value : Nat}
    (isDigit : value < 58) :
    (digit value).toNat < 128 :=
  (digit_spec value isDigit).2.2

/-! ## Numbers -/

theorem numberDigits_zero :
    numberDigits 0 = [] := by
  rw [numberDigits, if_pos rfl]

theorem numberDigits_of_ne_zero
    {value : Nat}
    (notZero : value ≠ 0) :
    numberDigits value = numberDigits (value / 58) ++ [digit (value % 58)] := by
  rw [numberDigits, if_neg notZero]

/-- The digits of a number are read as the number. -/
theorem exists_values_numberDigits
    (value : Nat) :
    ∃ values,
      (numberDigits value).mapM digitValue? = some values ∧ ofDigits 58 values = value := by
  induction value using numberDigits.induct with
  | case1 =>
      exact ⟨[], by rw [numberDigits_zero]; rfl, rfl⟩
  | case2 value notZero induction =>
      rcases induction with ⟨values, read, denotes⟩
      refine ⟨values ++ [value % 58], ?_, ?_⟩
      · rw [numberDigits_of_ne_zero notZero, List.mapM_append, read]
        simp [digitValue?_digit (Nat.mod_lt value (by decide : 0 < 58))]
      · rw [ofDigits_append, denotes]
        omega

/-- The first digit of a number is no zero. -/
theorem exists_first_numberDigits
    {value : Nat}
    (notZero : value ≠ 0) :
    ∃ first rest, numberDigits value = first :: rest ∧ first ≠ '1' := by
  induction value using numberDigits.induct with
  | case1 =>
      exact absurd rfl notZero
  | case2 value _ induction =>
      rw [numberDigits_of_ne_zero notZero]
      by_cases small : value / 58 = 0
      · rw [small, numberDigits_zero]
        refine ⟨digit (value % 58), [], rfl, ?_⟩
        rw [Ne, digit_eq_one_iff (Nat.mod_lt value (by decide))]
        omega
      · rcases induction small with ⟨first, rest, digits, noZero⟩
        rw [digits]
        exact ⟨first, rest ++ [digit (value % 58)], rfl, noZero⟩

theorem length_numberDigits_le
    {value count : Nat}
    (fits : value < 58 ^ count) :
    (numberDigits value).length ≤ count := by
  induction count generalizing value with
  | zero =>
      have zero : value = 0 := by simpa using fits
      rw [zero, numberDigits_zero]
      rfl
  | succ count induction =>
      by_cases zero : value = 0
      · rw [zero, numberDigits_zero]
        exact Nat.zero_le _
      · rw [numberDigits_of_ne_zero zero, List.length_append, List.length_singleton]
        have smaller : value / 58 < 58 ^ count := by
          rw [Nat.div_lt_iff_lt_mul (by decide), ← pow_succ]
          exact fits
        have shorter := induction smaller
        omega

theorem toNat_lt_of_mem_numberDigits
    (value : Nat) :
    ∀ character ∈ numberDigits value, character.toNat < 128 := by
  induction value using numberDigits.induct with
  | case1 =>
      rw [numberDigits_zero]
      simp
  | case2 value notZero induction =>
      rw [numberDigits_of_ne_zero notZero]
      intro character member
      rcases List.mem_append.1 member with front | last
      · exact induction character front
      · rw [List.mem_singleton] at last
        rw [last]
        exact toNat_digit_lt (Nat.mod_lt value (by decide))

/-! ## Bytes -/

theorem numberBytes_zero :
    numberBytes 0 = [] := by
  rw [numberBytes, if_pos rfl]

theorem numberBytes_of_ne_zero
    {value : Nat}
    (notZero : value ≠ 0) :
    numberBytes value = numberBytes (value / 256) ++ [UInt8.ofNat (value % 256)] := by
  rw [numberBytes, if_neg notZero]

theorem bigEndian_append_singleton
    (bytes : Bytes)
    (byte : UInt8) :
    Bytes.bigEndian (bytes ++ [byte]) = 256 * Bytes.bigEndian bytes + byte.toNat := by
  simp [Bytes.bigEndian]

theorem bigEndian_lt
    (bytes : Bytes) :
    Bytes.bigEndian bytes < 256 ^ bytes.length := by
  induction bytes using List.reverseRecOn with
  | nil =>
      exact Nat.one_pos
  | append_singleton bytes byte induction =>
      have small := byte.toNat_lt
      rw [bigEndian_append_singleton, List.length_append, List.length_singleton, pow_succ]
      omega

theorem bigEndian_replicate_append
    (zeros : Nat)
    (bytes : Bytes) :
    Bytes.bigEndian (List.replicate zeros 0 ++ bytes) = Bytes.bigEndian bytes := by
  induction zeros with
  | zero =>
      rfl
  | succ zeros induction =>
      exact induction

/-- The bytes of a number are those of a byte string without the zeros at its front. -/
theorem numberBytes_bigEndian
    (bytes : Bytes) :
    numberBytes (Bytes.bigEndian bytes) = bytes.dropWhile (· = 0) := by
  induction bytes using List.reverseRecOn with
  | nil =>
      exact numberBytes_zero
  | append_singleton bytes byte induction =>
      have small := byte.toNat_lt
      rw [bigEndian_append_singleton, List.dropWhile_append, ← induction]
      generalize Bytes.bigEndian bytes = value
      by_cases zero : 256 * value + byte.toNat = 0
      · have valueZero : value = 0 := by omega
        have byteZero : byte = 0 := UInt8.toNat_inj.1 (by rw [UInt8.toNat_zero]; omega)
        rw [zero, valueZero, byteZero, numberBytes_zero]
        rfl
      · have quotient : (256 * value + byte.toNat) / 256 = value := by omega
        have remainder : (256 * value + byte.toNat) % 256 = byte.toNat := by omega
        rw [numberBytes_of_ne_zero zero, quotient, remainder, UInt8.ofNat_toNat]
        by_cases valueZero : value = 0
        · have byteNotZero : byte ≠ 0 := by
            rintro rfl
            exact zero (by rw [valueZero]; rfl)
          rw [valueZero, numberBytes_zero]
          simp [byteNotZero]
        · rw [numberBytes_of_ne_zero valueZero]
          simp

/-! ## Whole texts -/

/-- A byte string falls into the zeros at its front and the bytes of its number. -/
theorem exists_zeros
    (bytes : Bytes) :
    ∃ zeros,
      encode bytes =
          String.ofList (List.replicate zeros '1' ++ numberDigits (Bytes.bigEndian bytes)) ∧
        bytes = List.replicate zeros 0 ++ numberBytes (Bytes.bigEndian bytes) := by
  refine ⟨(bytes.takeWhile (· = 0)).length, rfl, ?_⟩
  have front : bytes.takeWhile (· = 0) =
      List.replicate (bytes.takeWhile (· = 0)).length 0 := by
    rw [List.eq_replicate_iff]
    exact ⟨rfl, fun byte member => by simpa using List.mem_takeWhile_imp member⟩
  rw [numberBytes_bigEndian, ← front, List.takeWhile_append_dropWhile]

/-- The digits for zero at the front of a text are those of the zero bytes. -/
theorem takeWhile_encode
    (zeros value : Nat) :
    (List.replicate zeros '1' ++ numberDigits value).takeWhile (· = '1') =
      List.replicate zeros '1' := by
  by_cases zero : value = 0
  · rw [zero, numberDigits_zero]
    simp
  · rcases exists_first_numberDigits zero with ⟨first, rest, digits, noZero⟩
    rw [digits]
    simp [noZero]

theorem exists_values
    (zeros value : Nat) :
    ∃ values,
      (List.replicate zeros '1' ++ numberDigits value).mapM digitValue? = some values ∧
        ofDigits 58 values = value := by
  induction zeros with
  | zero =>
      exact exists_values_numberDigits value
  | succ zeros induction =>
      rcases induction with ⟨values, read, denotes⟩
      refine ⟨0 :: values, ?_, ?_⟩
      · have zeroDigit : digitValue? '1' = some 0 := digitValue?_digit (by decide : 0 < 58)
        rw [List.replicate_succ, List.cons_append, List.mapM_cons, zeroDigit, read]
        rfl
      · exact denotes

/-- Every byte string is read back from its text. -/
theorem decode?_encode
    (bytes : Bytes) :
    decode? (encode bytes) = some bytes := by
  rcases exists_zeros bytes with ⟨zeros, written, split⟩
  rcases exists_values zeros (Bytes.bigEndian bytes) with ⟨values, read, denotes⟩
  rw [decode?, written, String.toList_ofList]
  dsimp only
  rw [read, takeWhile_encode, List.length_replicate, Option.map_some, denotes, ← split]

/-- The text of 32 bytes has no more than 44 digits, all of them ASCII. -/
theorem exists_digits
    {bytes : Bytes}
    (size : bytes.length = 32) :
    ∃ digits,
      encode bytes = String.ofList digits ∧ digits.length ≤ 44 ∧
        ∀ character ∈ digits, character.toNat < 128 := by
  rcases exists_zeros bytes with ⟨zeros, written, split⟩
  refine ⟨_, written, ?_, ?_⟩
  · generalize denoted : Bytes.bigEndian bytes = value at split
    have small : value < 256 ^ (numberBytes value).length := by
      have bound := bigEndian_lt (numberBytes value)
      rwa [← bigEndian_replicate_append zeros, ← split, denoted] at bound
    have parts : zeros + (numberBytes value).length = 32 := by
      rw [← size, split, List.length_append, List.length_replicate]
    have wide : ∀ count < 33, 256 ^ count ≤ 58 ^ (count + 12) := by
      decide +kernel
    have digits := length_numberDigits_le
      (small.trans_le (wide (numberBytes value).length (by omega)))
    rw [List.length_append, List.length_replicate]
    omega
  · intro character member
    rcases List.mem_append.1 member with front | digit
    · rw [List.eq_of_mem_replicate front]
      decide
    · exact toNat_lt_of_mem_numberDigits _ character digit

end Holdings.Base58
