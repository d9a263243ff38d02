import Holdings.Proofs.Text.Hexadecimal
import Mathlib.Data.List.Induction
import Mathlib.Data.List.Pairwise
import Mathlib.Data.Nat.Digits.Defs

/-!
# How integers are spelled

An integer is spelled by an optional sign and decimal digits of any script, between which single
dividers may stand.  A hexadecimal number is spelled by digits in base sixteen; a divider may also
stand in front of them.  What is spelled is the number that the digits have in their base.

The readers of integers accept exactly these spellings, where a decimal one has no more digits
than a numeral may have.
-/

namespace Holdings.Text

/-! ## Digits of every script -/

/-- A character is the digit of a value in a script, of whose digits the first is a zero. -/
def IsDecimalDigit
    (character : Char)
    (value : Nat) :
    Prop :=
  value < 10 ∧ ∃ first ∈ digitZeros, character.toNat = first + value

/-- A character is the digit of a value in base sixteen. -/
inductive IsHexDigit
    (character : Char) :
    Nat → Prop where
  | decimal
      {value : Nat}
      (digit : IsDecimalDigit character value) :
      IsHexDigit character value
  | lower
      {value : Nat}
      (isLetter : value < 6)
      (place : character.toNat = 'a'.toNat + value) :
      IsHexDigit character (value + 10)
  | upper
      {value : Nat}
      (isLetter : value < 6)
      (place : character.toNat = 'A'.toNat + value) :
      IsHexDigit character (value + 10)

/-- The digits of a script stand apart from those of any other. -/
theorem pairwise_digitZeros :
    digitZeros.Pairwise fun first second => first + 10 ≤ second ∨ second + 10 ≤ first := by
  decide +kernel

theorem eq_of_mem_digitZeros
    {first second point : Nat}
    (isFirst : first ∈ digitZeros)
    (isSecond : second ∈ digitZeros)
    (inFirst : first ≤ point ∧ point < first + 10)
    (inSecond : second ≤ point ∧ point < second + 10) :
    first = second := by
  by_contra different
  have : Std.Symm fun first second : Nat => first + 10 ≤ second ∨ second + 10 ≤ first :=
    ⟨fun _ _ apart => apart.symm⟩
  have apart := pairwise_digitZeros.forall isFirst isSecond different
  omega

theorem digitValue?_eq_some_iff
    {character : Char}
    {value : Nat} :
    digitValue? character = some value ↔ IsDecimalDigit character value := by
  rw [digitValue?, Option.map_eq_some_iff]
  constructor
  · rintro ⟨first, found, rfl⟩
    have within := List.find?_some found
    rw [Bool.and_eq_true, decide_eq_true_iff, decide_eq_true_iff] at within
    exact ⟨by omega, first, List.mem_of_find?_eq_some found, by omega⟩
  · rintro ⟨small, first, isZero, place⟩
    cases found : digitZeros.find? fun first =>
        first ≤ character.toNat && character.toNat < first + 10 with
    | none =>
        have outside := List.find?_eq_none.1 found first isZero
        rw [Bool.and_eq_true, decide_eq_true_iff, decide_eq_true_iff] at outside
        omega
    | some other =>
        have within := List.find?_some found
        rw [Bool.and_eq_true, decide_eq_true_iff, decide_eq_true_iff] at within
        have same := eq_of_mem_digitZeros (List.mem_of_find?_eq_some found) isZero within
          ⟨by omega, by omega⟩
        exact ⟨other, rfl, by omega⟩

/-- No decimal digit of any script is a letter of ASCII. -/
theorem digitZeros_apart_letters :
    ∀ first ∈ digitZeros, first + 10 ≤ 'A'.toNat ∨ 'f'.toNat < first := by
  decide

theorem hexDigitValue?_eq_some_iff
    {character : Char}
    {value : Nat} :
    hexDigitValue? character = some value ↔ IsHexDigit character value := by
  have lowerLetter : 'a' ≤ character ∧ character ≤ 'f' ↔
      97 ≤ character.toNat ∧ character.toNat ≤ 102 :=
    Iff.rfl
  have upperLetter : 'A' ≤ character ∧ character ≤ 'F' ↔
      65 ≤ character.toNat ∧ character.toNat ≤ 70 :=
    Iff.rfl
  have lowest : 'a'.toNat = 97 := rfl
  have highest : 'f'.toNat = 102 := rfl
  have first : 'A'.toNat = 65 := rfl
  simp only [hexDigitValue?, lowerLetter, upperLetter]
  constructor
  · intro read
    split at read
    · cases read
      exact .lower (by omega) (by omega)
    · split at read
      · cases read
        exact .upper (by omega) (by omega)
      · exact .decimal (digitValue?_eq_some_iff.1 read)
  · intro digit
    cases digit with
    | decimal digit =>
        rcases digit with ⟨small, zeroPoint, isZero, place⟩
        have apart := digitZeros_apart_letters zeroPoint isZero
        rw [if_neg (by omega), if_neg (by omega), digitValue?_eq_some_iff]
        exact ⟨small, zeroPoint, isZero, place⟩
    | lower isLetter place =>
        rw [if_pos (by omega), Option.some_inj]
        omega
    | upper isLetter place =>
        rw [if_neg (by omega), if_pos (by omega), Option.some_inj]
        omega

theorem not_isDecimalDigit
    {character : Char}
    (noDigit : digitValue? character = none)
    (value : Nat) :
    ¬ IsDecimalDigit character value := by
  rw [← digitValue?_eq_some_iff, noDigit]
  nofun

theorem not_isHexDigit
    {character : Char}
    (noDigit : hexDigitValue? character = none)
    (value : Nat) :
    ¬ IsHexDigit character value := by
  rw [← hexDigitValue?_eq_some_iff, noDigit]
  nofun

/-! ## Dividers -/

/-- Characters that are digits of values, with single dividers between some of them. -/
inductive Divided
    (isDigit : Char → Nat → Prop) :
    List Char → List Nat → Prop where
  | last
      {character : Char}
      {value : Nat}
      (digit : isDigit character value) :
      Divided isDigit [character] [value]
  | next
      {character : Char}
      {value : Nat}
      {rest : List Char}
      {values : List Nat}
      (digit : isDigit character value)
      (later : Divided isDigit rest values) :
      Divided isDigit (character :: rest) (value :: values)
  | divider
      {character : Char}
      {value : Nat}
      {rest : List Char}
      {values : List Nat}
      (digit : isDigit character value)
      (later : Divided isDigit rest values) :
      Divided isDigit (character :: '_' :: rest) (value :: values)

namespace Divided

variable {isDigit : Char → Nat → Prop} {characters : List Char} {values : List Nat}

/-- Divided digits start with a digit. -/
theorem ne_cons
    (divided : Divided isDigit characters values)
    {mark : Char}
    (noDigit : ∀ value, ¬ isDigit mark value)
    (rest : List Char) :
    characters ≠ mark :: rest := by
  rintro rfl
  cases divided with
  | last digit =>
      exact noDigit _ digit
  | next digit later =>
      exact noDigit _ digit
  | divider digit later =>
      exact noDigit _ digit

theorem ne_nil
    (divided : Divided isDigit characters values) :
    characters ≠ [] := by
  rintro rfl
  cases divided

theorem mem
    (divided : Divided isDigit characters values) :
    ∀ character ∈ characters, character = '_' ∨ ∃ value, isDigit character value := by
  induction divided with
  | last digit =>
      intro character member
      rw [List.mem_singleton.1 member]
      exact .inr ⟨_, digit⟩
  | next digit later induction =>
      rw [List.forall_mem_cons]
      exact ⟨.inr ⟨_, digit⟩, induction⟩
  | divider digit later induction =>
      rw [List.forall_mem_cons, List.forall_mem_cons]
      exact ⟨.inr ⟨_, digit⟩, .inl rfl, induction⟩

end Divided

/-- What is read digit by digit are divided digits. -/
theorem Divided.of_dividedDigits
    {digit? : Char → Option Nat}
    {characters : List Char}
    {values : List Nat}
    (read : dividedDigits digit? characters = some values) :
    Divided (fun character value => digit? character = some value) characters values := by
  fun_induction dividedDigits digit? characters generalizing values with
  | case1 =>
      cases read
  | case2 only =>
      rcases Option.map_eq_some_iff.1 read with ⟨value, here, rfl⟩
      exact .last here
  | case3 first rest value others later here induction =>
      cases read
      exact .divider here (induction later)
  | case4 =>
      cases read
  | case5 first rest _ _ value others later here induction =>
      cases read
      exact .next here (induction later)
  | case6 =>
      cases read

/-- Divided digits are read as the values of their digits, and nothing else is read. -/
theorem dividedDigits_eq_some_iff
    {digit? : Char → Option Nat}
    {isDigit : Char → Nat → Prop}
    (reads : ∀ character value, digit? character = some value ↔ isDigit character value)
    (noDigit : digit? '_' = none)
    {characters : List Char}
    {values : List Nat} :
    dividedDigits digit? characters = some values ↔ Divided isDigit characters values := by
  have same : (fun character value => digit? character = some value) = isDigit := by
    funext character value
    exact propext (reads character value)
  subst same
  refine ⟨Divided.of_dividedDigits, fun divided => ?_⟩
  induction divided with
  | last digit =>
      rw [dividedDigits, digit]
      rfl
  | next digit later induction =>
      -- The rest starts with a digit, so it is neither empty nor does it start with a divider.
      rw [dividedDigits, digit, induction]
      · exact fun empty => later.ne_nil empty
      · refine fun others => later.ne_cons (fun value here => ?_) others
        rw [noDigit] at here
        cases here
  | divider digit later induction =>
      rw [dividedDigits, digit, induction]

/-! ## The number that digits denote -/

/-- Digits denote the number that they have in their base, the last digit being the lowest. -/
theorem ofDigits_eq
    (base : Nat)
    (digits : List Nat) :
    ofDigits base digits = Nat.ofDigits base digits.reverse := by
  induction digits using List.reverseRecOn with
  | nil =>
      rfl
  | append_singleton front last induction =>
      rw [ofDigits_append, List.reverse_concat, Nat.ofDigits_cons, induction]
      exact Nat.add_comm _ _ |>.trans (by rw [Nat.mul_comm])

/-! ## Numerals -/

theorem readUnsigned_eq_some_iff
    {characters : List Char}
    {size : Nat} :
    readUnsigned characters = some size ↔
      ∃ digits, Divided IsDecimalDigit characters digits ∧ digits.length ≤ numeralLimit ∧
        Nat.ofDigits 10 digits.reverse = size := by
  have divided {digits : List Nat} :
      dividedDigits digitValue? characters = some digits ↔
        Divided IsDecimalDigit characters digits :=
    dividedDigits_eq_some_iff (fun _ _ => digitValue?_eq_some_iff) (by decide)
  simp only [readUnsigned, Option.bind_eq_some_iff, divided, Option.ite_none_right_eq_some,
    Option.some_inj, ofDigits_eq]

theorem readHexDigits_eq_some_iff
    {characters : List Char}
    {size : Nat} :
    readHexDigits characters = some size ↔
      ∃ divider written digits,
        (divider = [] ∨ divider = ['_']) ∧ characters = divider ++ written ∧
          Divided IsHexDigit written digits ∧ Nat.ofDigits 16 digits.reverse = size := by
  have divided {written : List Char} {digits : List Nat} :
      dividedDigits hexDigitValue? written = some digits ↔ Divided IsHexDigit written digits :=
    dividedDigits_eq_some_iff (fun _ _ => hexDigitValue?_eq_some_iff) (by decide)
  unfold readHexDigits
  simp only [Option.map_eq_some_iff, divided, ofDigits_eq]
  constructor
  · rintro ⟨digits, spelled, value⟩
    split at spelled
    · exact ⟨['_'], _, digits, .inr rfl, rfl, spelled, value⟩
    · exact ⟨[], _, digits, .inl rfl, rfl, spelled, value⟩
  · rintro ⟨divider, written, digits, rfl | rfl, rfl, spelled, value⟩
    · refine ⟨digits, ?_, value⟩
      split
      · exact absurd rfl (spelled.ne_cons (not_isHexDigit (by decide)) _)
      · exact spelled
    · exact ⟨digits, spelled, value⟩

/-- A sign, by what it multiplies a number with; no sign is a plus. -/
inductive IsSign : List Char → Int → Prop where
  | unsigned :
      IsSign [] 1
  | plus :
      IsSign ['+'] 1
  | minus :
      IsSign ['-'] (-1)

theorem readSigned_eq_some_iff
    {characters : List Char}
    {value : Int} :
    readSigned characters = some value ↔
      ∃ sign factor unsigned, ∃ size : Nat,
        IsSign sign factor ∧ characters = sign ++ unsigned ∧
          readUnsigned unsigned = some size ∧ factor * size = value := by
  constructor
  · intro read
    unfold readSigned at read
    split at read
    all_goals
      simp only [Option.map_eq_some_iff, Option.bind_eq_bind, Option.bind_eq_some_iff,
        Option.pure_def, Option.some_inj] at read
      rcases read with ⟨_, ⟨size, unsigned, rfl⟩, rfl⟩
    · exact ⟨['-'], -1, _, size, .minus, rfl, unsigned, by omega⟩
    · exact ⟨['+'], 1, _, size, .plus, rfl, unsigned, by omega⟩
    · exact ⟨[], 1, _, size, .unsigned, rfl, unsigned, by omega⟩
  · rintro ⟨sign, factor, unsigned, size, isSign, rfl, read, rfl⟩
    cases isSign with
    | unsigned =>
        -- Neither sign is a digit, so the other ways to read the text are ruled out.
        rcases readUnsigned_eq_some_iff.1 read with ⟨digits, spelled, -⟩
        have noMark {mark : Char} (noDigit : digitValue? mark = none) (rest : List Char) :
            unsigned ≠ mark :: rest :=
          spelled.ne_cons (not_isDecimalDigit noDigit) rest
        rw [List.nil_append, readSigned, read]
        · exact congrArg some (Int.one_mul _).symm
        · exact noMark (by decide)
        · exact noMark (by decide)
    | plus =>
        rw [List.singleton_append, readSigned, read]
        exact congrArg some (Int.one_mul _).symm
    | minus =>
        rw [List.singleton_append, readSigned, read]
        exact congrArg some (Int.neg_one_mul _).symm

end Holdings.Text
