import Holdings.Proofs.Amount.Refused
import Holdings.Proofs.Amount.Writing
import Holdings.Proofs.Text.Hexadecimal

/-!
# How amounts are spelled

An amount is spelled by nothing at all, if it is zero, by a hexadecimal number behind its mark, or
by a decimal integer that is not negative.  Blanks may stand around what is spelled.

The reader of amounts accepts exactly the texts that spell one and takes what they spell;
everything else is refused as an unacceptable value.  So whatever is written for an amount in
either base, with zeros in front and blanks around it, is read as this amount.
-/

namespace Holdings

open Text

/-! ## No digit is blank -/

namespace Text

theorem not_isBlank_of_apart
    {character : Char}
    (apart : ∀ range ∈ blanks, range.last < character.toNat ∨ character.toNat < range.first) :
    isBlank character = false := by
  rw [isBlank, inTable, List.any_eq_false]
  intro range member holds
  rw [CodeRange.holds_iff] at holds
  have outside := apart range member
  omega

theorem not_isBlank_of_isDecimalDigit
    {character : Char}
    {value : Nat}
    (digit : IsDecimalDigit character value) :
    isBlank character = false := by
  have scripts : ∀ first ∈ digitZeros, ∀ range ∈ blanks,
      range.last < first ∨ first + 10 ≤ range.first := by
    decide
  rcases digit with ⟨small, first, isZero, place⟩
  apply not_isBlank_of_apart
  intro range member
  have apart := scripts first isZero range member
  omega

theorem not_isBlank_of_isHexDigit
    {character : Char}
    {value : Nat}
    (digit : IsHexDigit character value) :
    isBlank character = false := by
  have letters : ∀ range ∈ blanks,
      range.last < 'A'.toNat ∨ 'f'.toNat < range.first := by
    decide
  have lowest : 'a'.toNat = 'A'.toNat + 32 := rfl
  have highest : 'f'.toNat = 'a'.toNat + 5 := rfl
  cases digit with
  | decimal digit =>
      exact not_isBlank_of_isDecimalDigit digit
  | lower isLetter place =>
      apply not_isBlank_of_apart
      intro range member
      have apart := letters range member
      omega
  | upper isLetter place =>
      apply not_isBlank_of_apart
      intro range member
      have apart := letters range member
      omega

theorem Divided.not_isBlank
    {isDigit : Char → Nat → Prop}
    {characters : List Char}
    {values : List Nat}
    (divided : Divided isDigit characters values)
    (noBlank : ∀ character value, isDigit character value → isBlank character = false) :
    ∀ character ∈ characters, isBlank character = false := by
  intro character member
  rcases divided.mem character member with rfl | ⟨value, digit⟩
  · decide
  · exact noBlank character value digit

theorem IsSign.not_isBlank
    {sign : List Char}
    {factor : Int}
    (isSign : IsSign sign factor) :
    ∀ character ∈ sign, isBlank character = false := by
  cases isSign with
  | unsigned =>
      exact nofun
  | plus =>
      exact List.forall_mem_singleton.2 (by decide)
  | minus =>
      exact List.forall_mem_singleton.2 (by decide)

end Text

/-! ## The grammar -/

namespace Amount

/-- What is written for an amount between the blanks around it. -/
inductive IsWritten : List Char → Nat → Prop where
  | nothing :
      IsWritten [] 0
  | hexadecimal
      {mark : Char}
      {divider written : List Char}
      {digits : List Nat}
      (isMark : mark = 'x' ∨ mark = 'X')
      (isDivider : divider = [] ∨ divider = ['_'])
      (divided : Divided IsHexDigit written digits) :
      IsWritten ('0' :: mark :: (divider ++ written)) (Nat.ofDigits 16 digits.reverse)
  | decimal
      {sign written : List Char}
      {factor : Int}
      {digits : List Nat}
      {amount : Nat}
      (isSign : IsSign sign factor)
      (divided : Divided IsDecimalDigit written digits)
      (short : digits.length ≤ numeralLimit)
      (notNegative : factor * (Nat.ofDigits 10 digits.reverse : Nat) = amount) :
      IsWritten (sign ++ written) amount

/-- Whether nothing but blanks stands in a list. -/
def AreBlank
    (characters : List Char) :
    Prop :=
  ∀ character ∈ characters, isBlank character = true

/-- A text spells an amount: blanks stand in front of what is written for it and behind. -/
inductive IsSpelledBy
    (amount : Nat)
    (text : String) :
    Prop where
  | spelled
      {front written back : List Char}
      (split : text.toList = front ++ written ++ back)
      (blankFront : AreBlank front)
      (blankBack : AreBlank back)
      (isWritten : IsWritten written amount) :
      IsSpelledBy amount text

theorem IsWritten.not_isBlank
    {written : List Char}
    {amount : Nat}
    (isWritten : IsWritten written amount) :
    ∀ character ∈ written, isBlank character = false := by
  cases isWritten with
  | nothing =>
      exact nofun
  | hexadecimal isMark isDivider divided =>
      rw [List.forall_mem_cons, List.forall_mem_cons, List.forall_mem_append]
      refine ⟨by decide, ?_, ?_, divided.not_isBlank fun _ _ => not_isBlank_of_isHexDigit⟩
      · rcases isMark with rfl | rfl
        · decide
        · decide
      · rcases isDivider with rfl | rfl
        · exact nofun
        · exact List.forall_mem_singleton.2 (by decide)
  | decimal isSign divided short notNegative =>
      rw [List.forall_mem_append]
      exact ⟨isSign.not_isBlank, divided.not_isBlank fun _ _ => not_isBlank_of_isDecimalDigit⟩

/-- A text spells what is written in it when its blanks are trimmed. -/
theorem isSpelledBy_iff
    {amount : Nat}
    {text : String} :
    IsSpelledBy amount text ↔ IsWritten (trimList text.toList) amount := by
  constructor
  · rintro ⟨split, blankFront, blankBack, isWritten⟩
    have bare : HasBareEnds isBlank _ := .of_forall isWritten.not_isBlank
    rw [trimList, split, bare.stripEnds_surrounded blankFront blankBack]
    exact isWritten
  · intro isWritten
    rcases exists_stripEnds_split isBlank text.toList with
      ⟨front, back, split, blankFront, blankBack⟩
    exact .spelled split blankFront blankBack isWritten

/-! ## The reader -/

theorem afterHexMark_eq_some_iff
    {characters digits : List Char} :
    afterHexMark characters = some digits ↔
      ∃ mark, (mark = 'x' ∨ mark = 'X') ∧ characters = '0' :: mark :: digits := by
  unfold afterHexMark
  constructor
  · intro marked
    split at marked
    · cases marked
      exact ⟨'x', .inl rfl, rfl⟩
    · cases marked
      exact ⟨'X', .inr rfl, rfl⟩
    · cases marked
  · rintro ⟨mark, rfl | rfl, rfl⟩
    · rfl
    · rfl

/-- Neither a sign nor a decimal digit is the letter of the hexadecimal mark. -/
theorem afterHexMark_of_divided
    {sign written : List Char}
    {factor : Int}
    {digits : List Nat}
    (isSign : IsSign sign factor)
    (divided : Divided IsDecimalDigit written digits) :
    afterHexMark (sign ++ written) = none := by
  have noLetter {letter : Char} (noDigit : digitValue? letter = none)
      (noMark : letter ∉ ['_', '+', '-']) : letter ∉ sign ++ written := by
    rw [List.mem_append]
    rintro (inSign | inWritten)
    · cases isSign with
      | unsigned =>
          cases inSign
      | plus =>
          rw [List.mem_singleton.1 inSign] at noMark
          exact noMark (by decide)
      | minus =>
          rw [List.mem_singleton.1 inSign] at noMark
          exact noMark (by decide)
    · rcases divided.mem letter inWritten with rfl | ⟨value, digit⟩
      · exact noMark (by decide)
      · exact not_isDecimalDigit noDigit value digit
  exact afterHexMark_of_not_mem (noLetter (by decide) (by decide))
    (noLetter (by decide) (by decide))

theorem isWritten_nil_iff
    {amount : Nat} :
    IsWritten [] amount ↔ amount = 0 := by
  constructor
  · intro isWritten
    generalize empty : ([] : List Char) = written at isWritten
    cases isWritten with
    | nothing =>
        rfl
    | hexadecimal isMark isDivider divided =>
        cases empty
    | decimal isSign divided short notNegative =>
        exact absurd (List.append_eq_nil_iff.1 empty.symm).2 divided.ne_nil
  · rintro rfl
    exact .nothing

/-- Behind a hexadecimal mark stands a hexadecimal number. -/
theorem isWritten_iff_of_mark
    {written digits : List Char}
    {amount : Nat}
    (marked : afterHexMark written = some digits) :
    IsWritten written amount ↔ readHexDigits digits = some amount := by
  rw [readHexDigits_eq_some_iff]
  constructor
  · intro isWritten
    cases isWritten with
    | nothing =>
        cases marked
    | hexadecimal isMark isDivider divided =>
        rcases afterHexMark_eq_some_iff.1 marked with ⟨other, -, same⟩
        cases same
        exact ⟨_, _, _, isDivider, rfl, divided, rfl⟩
    | decimal isSign divided short notNegative =>
        rw [afterHexMark_of_divided isSign divided] at marked
        cases marked
  · rintro ⟨divider, behind, values, isDivider, rfl, divided, rfl⟩
    rcases afterHexMark_eq_some_iff.1 marked with ⟨mark, isMark, rfl⟩
    exact .hexadecimal isMark isDivider divided

/-- Without this mark an integer is written, and one that is not negative. -/
theorem isWritten_iff_of_no_mark
    {written : List Char}
    {amount : Nat}
    (unmarked : afterHexMark written = none)
    (notEmpty : written ≠ []) :
    IsWritten written amount ↔ readSigned written = some (amount : Int) := by
  rw [readSigned_eq_some_iff]
  constructor
  · intro isWritten
    cases isWritten with
    | nothing =>
        exact absurd rfl notEmpty
    | hexadecimal isMark isDivider divided =>
        rw [afterHexMark_eq_some_iff.2 ⟨_, isMark, rfl⟩] at unmarked
        cases unmarked
    | decimal isSign divided short notNegative =>
        exact ⟨_, _, _, _, isSign, rfl, readUnsigned_eq_some_iff.2 ⟨_, divided, short, rfl⟩,
          notNegative⟩
  · rintro ⟨sign, factor, unsigned, size, isSign, rfl, read, notNegative⟩
    rcases readUnsigned_eq_some_iff.1 read with ⟨digits, divided, short, rfl⟩
    exact .decimal isSign divided short notNegative

theorem checkSign_eq_ok_iff
    {given : Json}
    {value : Int}
    {amount : Nat} :
    checkSign given value = .ok amount ↔ value = amount := by
  unfold checkSign
  split
  · next negative =>
      refine iff_of_false nofun ?_
      rintro rfl
      exact absurd negative (Int.not_lt.2 (Int.natCast_nonneg amount))
  · next notNegative =>
      rw [Except.ok.injEq]
      omega

theorem readInteger_ofList
    {written : List Char}
    (bare : HasBareEnds isBlank written) :
    readInteger (String.ofList written) = readSigned written := by
  have noGap {character : Char} (noBlank : isBlank character = false) :
      isNumeralGap character = false := by
    rw [isNumeralGap, noBlank, Bool.false_and]
  have gaps : HasBareEnds isNumeralGap written :=
    ⟨fun character first => noGap (bare.first character first),
      fun character last => noGap (bare.last character last)⟩
  rw [readInteger, String.toList_ofList, gaps.stripEnds_eq]

theorem readTrimmed_eq_some_iff
    {written : List Char}
    (bare : HasBareEnds isBlank written)
    (notEmpty : written ≠ [])
    {amount : Nat} :
    readTrimmed written = some (amount : Int) ↔ IsWritten written amount := by
  unfold readTrimmed
  split
  · next digits marked =>
      rw [isWritten_iff_of_mark marked]
      cases readHexDigits digits with
      | none =>
          exact iff_of_false nofun nofun
      | some size =>
          exact Option.some_inj.trans (Int.ofNat_inj.trans Option.some_inj.symm)
  · next unmarked =>
      rw [isWritten_iff_of_no_mark unmarked notEmpty, readInteger_ofList bare]

/-- A text is read as the amount that it spells. -/
theorem ofText_eq_ok_iff
    {text : String}
    {amount : Nat} :
    ofText text = .ok amount ↔ IsSpelledBy amount text := by
  have bare : HasBareEnds isBlank (trimList text.toList) := hasBareEnds_stripEnds _ _
  rw [isSpelledBy_iff, ofText]
  generalize trimList text.toList = written at bare
  by_cases empty : written = []
  · rw [empty, isWritten_nil_iff]
    simp [eq_comm]
  · have notEmpty : written.isEmpty = false := List.isEmpty_eq_false_iff.2 empty
    rw [← readTrimmed_eq_some_iff bare empty]
    simp only [notEmpty, Bool.false_eq_true, if_false]
    cases readTrimmed written with
    | some value =>
        rw [checkSign_eq_ok_iff, Option.some_inj]
    | none =>
        constructor
        · intro accepted
          cases accepted
        · intro found
          cases found

/-! ## What is written for an amount -/

/-- Characters that write digits, each letter in its own case or in the other. -/
def IsCaseOf
    (written digits : List Char) :
    Prop :=
  List.Forall₂ (fun character digit => character = digit ∨ character = digit.toUpper)
    written digits

theorem hexCharacterValue_toUpper :
    ∀ digit ∈ hexCharacters,
      digit.toUpper ∈ hexCharacters ∧ hexCharacterValue digit.toUpper = hexCharacterValue digit :=
  List.all_iff_forall_prop.1 (by decide)

/-- The case of its letters makes no difference to what hexadecimal digits denote. -/
theorem IsCaseOf.hexValue_eq
    {written digits : List Char}
    (cases : IsCaseOf written digits)
    (areDigits : AreHexDigits digits) :
    AreHexDigits written ∧ hexValue written = hexValue digits := by
  have each : AreHexDigits written ∧
      written.map hexCharacterValue = digits.map hexCharacterValue := by
    induction cases with
    | nil =>
        exact ⟨nofun, rfl⟩
    | @cons character digit written digits here _ induction =>
        rcases List.forall_mem_cons.1 areDigits with ⟨isDigit, areOthers⟩
        rcases induction areOthers with ⟨areWritten, sameValues⟩
        have upper := hexCharacterValue_toUpper digit isDigit
        have own : character ∈ hexCharacters ∧
            hexCharacterValue character = hexCharacterValue digit := by
          rcases here with rfl | rfl
          · exact ⟨isDigit, rfl⟩
          · exact upper
        refine ⟨List.forall_mem_cons.2 ⟨own.1, areWritten⟩, ?_⟩
        rw [List.map_cons, List.map_cons, own.2, sameValues]
  exact ⟨each.1, congrArg (ofDigits 16) each.2⟩

theorem ofDigits_replicate_zero_append
    (base zeros : Nat)
    (digits : List Nat) :
    ofDigits base (List.replicate zeros 0 ++ digits) = ofDigits base digits := by
  induction zeros with
  | zero =>
      rfl
  | succ zeros induction =>
      rw [List.replicate_succ, List.cons_append, ← induction, ofDigits, List.foldl_cons,
        Nat.zero_mul]
      rfl

/-- Digits behind a hexadecimal mark write the number that they denote. -/
theorem isWritten_hexadecimal
    {mark : Char}
    {digits : List Char}
    (isMark : mark = 'x' ∨ mark = 'X')
    (areDigits : AreHexDigits digits)
    (notEmpty : digits ≠ []) :
    IsWritten ('0' :: mark :: digits) (hexValue digits) :=
  (isWritten_iff_of_mark (afterHexMark_eq_some_iff.2 ⟨mark, isMark, rfl⟩)).2
    (readHexDigits_of_areHexDigits areDigits notEmpty)

theorem isWritten_hexDigits
    {mark : Char}
    {written : List Char}
    {amount : Nat}
    (isMark : mark = 'x' ∨ mark = 'X')
    (cases : IsCaseOf written (hexDigits amount))
    (zeros : Nat) :
    IsWritten ('0' :: mark :: (List.replicate zeros '0' ++ written)) amount := by
  rcases cases.hexValue_eq (areHexDigits_hexDigits amount) with ⟨areDigits, sameValue⟩
  have notEmpty : written ≠ [] := by
    rintro rfl
    exact hexDigits_ne_nil amount (List.forall₂_nil_left_iff.1 cases)
  have areAll : AreHexDigits (List.replicate zeros '0' ++ written) := by
    rw [AreHexDigits, List.forall_mem_append]
    refine ⟨fun character member => ?_, areDigits⟩
    rw [List.eq_of_mem_replicate member]
    decide
  have value : hexValue (List.replicate zeros '0' ++ written) = amount := by
    rw [hexValue, List.map_append, List.map_replicate, show hexCharacterValue '0' = 0 by decide,
      ofDigits_replicate_zero_append, ← hexValue, sameValue, hexValue_hexDigits]
  have isWritten := isWritten_hexadecimal isMark areAll (by simp [notEmpty])
  rwa [value] at isWritten

theorem isWritten_decimalDigits
    {zeros amount : Nat}
    (short : zeros + digitCount amount ≤ numeralLimit) :
    IsWritten (List.replicate zeros '0' ++ decimalDigits amount) amount := by
  have areDigits : AreDigits (List.replicate zeros '0' ++ decimalDigits amount) :=
    (areDigits_append _ _).2 ⟨areDigits_replicate_zero zeros, areDigits_decimalDigits amount⟩
  have notEmpty : List.replicate zeros '0' ++ decimalDigits amount ≠ [] := by
    simp [decimalDigits]
  have divided := (dividedDigits_eq_some_iff (fun _ _ => digitValue?_eq_some_iff) (by decide)).1
    (dividedDigits_of_areDigits areDigits notEmpty)
  have fits : ((List.replicate zeros '0' ++ decimalDigits amount).map asciiDigitValue).length ≤
      numeralLimit := by
    rw [List.length_map, List.length_append, List.length_replicate]
    exact short
  have value : Nat.ofDigits 10
      ((List.replicate zeros '0' ++ decimalDigits amount).map asciiDigitValue).reverse =
        amount := by
    rw [← ofDigits_eq, ofDigits_map_asciiDigitValue, digitsValue_append,
      digitsValue_replicate_zero, digitsValue_decimalDigits, Nat.zero_mul, Nat.zero_add]
  have isWritten := IsWritten.decimal .unsigned divided fits (Int.one_mul _)
  rwa [value, List.nil_append] at isWritten

/-! ## All that is read -/

/-- A reader that takes the spellings of amounts, and nothing else, for amounts. -/
structure ReadsSpellings
    (reader : Json → Except Fault Nat) :
    Prop where
  accepts : ∀ text amount,
    reader (.text text) = .ok amount ↔ IsSpelledBy amount text
  refuses : ∀ text,
    (∀ amount, ¬ IsSpelledBy amount text) →
      ∃ fault, reader (.text text) = .error fault ∧ fault.kind = .value
  /-- In base sixteen any number of digits is read, in either case and behind any zeros. -/
  hexadecimal : ∀ amount mark zeros written front back,
    mark = 'x' ∨ mark = 'X' → IsCaseOf written (hexDigits amount) →
      AreBlank front → AreBlank back →
        reader (.text (String.ofList
          (front ++ '0' :: mark :: (List.replicate zeros '0' ++ written) ++ back))) = .ok amount
  decimal : ∀ amount zeros front back,
    zeros + digitCount amount ≤ numeralLimit →
      AreBlank front → AreBlank back →
        reader (.text (String.ofList
          (front ++ (List.replicate zeros '0' ++ decimalDigits amount) ++ back))) = .ok amount
  /-- An integer is the amount that it is, unless it is negative. -/
  integer : ∀ given amount,
    reader (.int given) = .ok amount ↔ given = (amount : Int)

/-- Amounts are read by their grammar, and whatever is written for one spells it. -/
theorem readsSpellings_read :
    ReadsSpellings read := by
  have surrounded {written front back : List Char} {amount : Nat}
      (isWritten : IsWritten written amount)
      (blankFront : AreBlank front) (blankBack : AreBlank back) :
      read (.text (String.ofList (front ++ written ++ back))) = .ok amount :=
    ofText_eq_ok_iff.2 (.spelled String.toList_ofList blankFront blankBack isWritten)
  constructor
  case accepts =>
    intro text amount
    exact ofText_eq_ok_iff
  case refuses =>
    intro text unspelled
    cases readText : read (.text text) with
    | ok amount =>
        exact absurd (ofText_eq_ok_iff.1 readText) (unspelled amount)
    | error fault =>
        exact ⟨fault, rfl, kind_of_read readText⟩
  case hexadecimal =>
    intro amount mark zeros written front back isMark cases blankFront blankBack
    exact surrounded (isWritten_hexDigits isMark cases zeros) blankFront blankBack
  case decimal =>
    intro amount zeros front back short blankFront blankBack
    exact surrounded (isWritten_decimalDigits short) blankFront blankBack
  case integer =>
    intro given amount
    exact checkSign_eq_ok_iff

/-- A sign, zeros and single dividers make no difference; two dividers in a row are none. -/
example :
    read (.text " +0_042\n") = .ok 42 ∧ read (.text "0X_2_a") = .ok 42 ∧
      read (.text "-0") = .ok 0 ∧ read (.text "4__2") = .error (.invalidAmount (.text "4__2")) :=
  ⟨rfl, rfl, rfl, rfl⟩

end Amount

end Holdings
