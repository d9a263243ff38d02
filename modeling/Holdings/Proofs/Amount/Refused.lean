import Holdings.Proofs.Amount.Decimal
import Holdings.Proofs.Text.Numerals

/-!
# Texts that are no amounts

A character that is neither a digit nor a sign nor a divider makes a text no numeral in decimal,
wherever in the text it stands.  Every floating-point number has such a character in its text, the
whole ones included, and so has a list.  A negative integer is a numeral but no amount.
-/

namespace Holdings

open Text

/-! ## Characters of numerals -/

namespace Text

/-- Divided digits are digits and dividers. -/
theorem isSome_of_dividedDigits
    {digit? : Char → Option Nat}
    {characters : List Char}
    {digits : List Nat}
    (divided : dividedDigits digit? characters = some digits) :
    ∀ character ∈ characters, character = '_' ∨ (digit? character).isSome = true := by
  intro character member
  rcases (Divided.of_dividedDigits divided).mem character member with mark | ⟨value, digit⟩
  · exact .inl mark
  · exact .inr (by rw [digit]; rfl)

/-- A character that no decimal numeral has. -/
structure IsForeign
    (character : Char) :
    Prop where
  noDigit : digitValue? character = none
  noMark : character ∉ ['_', '+', '-']
  noBlank : isBlank character = false

section Foreign

variable {characters : List Char} {character : Char}

theorem readUnsigned_of_isForeign
    (foreign : IsForeign character)
    (member : character ∈ characters) :
    readUnsigned characters = none := by
  cases divided : dividedDigits digitValue? characters with
  | none =>
      rw [readUnsigned, divided]
      rfl
  | some digits =>
      rcases isSome_of_dividedDigits divided character member with rfl | digit
      · exact absurd (by decide) foreign.noMark
      · rw [foreign.noDigit] at digit
        cases digit

theorem IsForeign.mem_of_mem_cons
    {mark : Char}
    (foreign : IsForeign character)
    (isMark : mark ∈ ['_', '+', '-'])
    (member : character ∈ mark :: characters) :
    character ∈ characters := by
  rcases List.mem_cons.1 member with rfl | later
  · exact absurd isMark foreign.noMark
  · exact later

theorem readSigned_of_isForeign
    (foreign : IsForeign character)
    (member : character ∈ characters) :
    readSigned characters = none := by
  unfold readSigned
  split
  · rw [readUnsigned_of_isForeign foreign (foreign.mem_of_mem_cons (by decide) member)]
    rfl
  · rw [readUnsigned_of_isForeign foreign (foreign.mem_of_mem_cons (by decide) member)]
    rfl
  · rw [readUnsigned_of_isForeign foreign member]
    rfl

theorem afterHexMark_of_not_mem
    (lower : 'x' ∉ characters)
    (upper : 'X' ∉ characters) :
    afterHexMark characters = none := by
  unfold afterHexMark
  split
  · exact absurd (by simp) lower
  · exact absurd (by simp) upper
  · rfl

end Foreign

end Text

namespace Amount

/-- A text with a foreign character is no amount, unless it is one in hexadecimal. -/
theorem read_of_isForeign
    {written : String}
    {character : Char}
    (foreign : IsForeign character)
    (member : character ∈ written.toList)
    (noHex : afterHexMark (trimList written.toList) = none) :
    read (.text written) = .error (.invalidAmount (.text written)) := by
  have inside : character ∈ trimList written.toList := mem_stripEnds foreign.noBlank member
  have notEmpty : (trimList written.toList).isEmpty = false := by
    rw [List.isEmpty_eq_false_iff]
    exact List.ne_nil_of_mem inside
  have noGap : isNumeralGap character = false := by
    rw [isNumeralGap, foreign.noBlank, Bool.false_and]
  have noInteger : readInteger (String.ofList (trimList written.toList)) = none := by
    rw [readInteger, String.toList_ofList]
    exact readSigned_of_isForeign foreign (mem_stripEnds noGap inside)
  rw [read_text, ofText]
  simp only [notEmpty, readTrimmed, noHex, noInteger, Bool.false_eq_true, if_false]

/-- What is written in brackets is no amount, whatever stands between them. -/
theorem read_of_brackets
    {written : String}
    {inside : List Char}
    (bracketed : written.toList = '[' :: inside ++ [']']) :
    read (.text written) = .error (.invalidAmount (.text written)) := by
  have bracket : IsForeign '[' := ⟨by decide, by decide, by decide⟩
  have bare : HasBareEnds isBlank written.toList := by
    rw [bracketed]
    constructor
    · intro character first
      cases first
      decide
    · intro character last
      rw [List.getLast?_concat] at last
      cases last
      decide
  apply read_of_isForeign bracket
  · rw [bracketed]
    exact List.mem_cons_self
  · rw [trimList, bare.stripEnds_eq, bracketed]
    rfl

end Amount

/-! ## Floating-point numbers -/

namespace Double

theorem isForeign_of_mem
    {character : Char}
    (member : character ∈ ['.', 'e', 'n']) :
    IsForeign character := by
  simp only [List.mem_cons, List.not_mem_nil, or_false] at member
  rcases member with rfl | rfl | rfl
  · exact ⟨by decide, by decide, by decide⟩
  · exact ⟨by decide, by decide, by decide⟩
  · exact ⟨by decide, by decide, by decide⟩

/-- Digits that are laid out have a point among them, or an exponent behind them. -/
theorem exists_mem_layOut
    (digits : List Char)
    (exponent : Int) :
    ∃ character ∈ ['.', 'e', 'n'], character ∈ layOut digits exponent := by
  unfold layOut
  split
  · split
    · exact ⟨'.', by decide, by simp⟩
    · exact ⟨'.', by decide, by simp⟩
  · exact ⟨'e', by decide, by simp⟩

/-- A character that digits are laid out with. -/
def IsLaidOut
    (character : Char) :
    Prop :=
  character.isDigit = true ∨ character ∈ ['.', 'e', '-', '+']

theorem forall_isLaidOut
    {digits : List Char}
    (areDigits : AreDigits digits) :
    ∀ character ∈ digits, IsLaidOut character :=
  fun character member => .inl (areDigits character member)

theorem forall_isLaidOut_layOut
    {digits : List Char}
    (areDigits : AreDigits digits)
    (exponent : Int) :
    ∀ character ∈ layOut digits exponent, IsLaidOut character := by
  have mark (character : Char) (isMark : character ∈ ['.', 'e', '-', '+']) :
      IsLaidOut character :=
    .inr isMark
  have zero : IsLaidOut '0' := .inl rfl
  have zeros (count : Nat) : ∀ character ∈ List.replicate count '0', IsLaidOut character :=
    forall_isLaidOut (areDigits_replicate_zero count)
  have written := forall_isLaidOut areDigits
  unfold layOut
  split
  · split
    · simp only [List.forall_mem_append, List.forall_mem_cons]
      exact ⟨⟨zero, mark '.' (by decide), zeros _⟩, written⟩
    · have front (count : Nat) : ∀ character ∈ digits.take count, IsLaidOut character :=
        fun character member => written character (List.mem_of_mem_take member)
      have back (count : Nat) : ∀ character ∈ digits.drop count, IsLaidOut character :=
        fun character member => written character (List.mem_of_mem_drop member)
      simp only [List.forall_mem_append, List.forall_mem_cons]
      refine ⟨⟨front _, zeros _⟩, mark '.' (by decide), ?_⟩
      split
      · exact List.forall_mem_singleton.2 zero
      · exact back _
  · have size := forall_isLaidOut (areDigits_decimalDigits exponent.natAbs)
    have sign : IsLaidOut (if exponent < 0 then '-' else '+') := by
      split
      · exact mark '-' (by decide)
      · exact mark '+' (by decide)
    simp only [List.forall_mem_append, List.forall_mem_cons]
    refine ⟨?_, mark 'e' (by decide), sign, zeros _, size⟩
    split
    · exact written
    · exact written
    · rw [List.forall_mem_cons] at written
      exact List.forall_mem_cons.2
        ⟨written.1, List.forall_mem_cons.2 ⟨mark '.' (by decide), written.2⟩⟩

theorem areDigits_dropFinalZeros
    {digits : List Char}
    (areDigits : AreDigits digits) :
    AreDigits (dropFinalZeros digits) := by
  intro character member
  rw [dropFinalZeros, List.mem_reverse] at member
  have kept := (List.dropWhile_suffix _).subset member
  exact areDigits character (List.mem_reverse.1 kept)

/-- A text that denotes no amount, since it has a foreign character and no hexadecimal mark. -/
structure IsUnreadable
    (characters : List Char) :
    Prop where
  foreign : ∃ character ∈ ['.', 'e', 'n'], character ∈ characters
  lower : 'x' ∉ characters
  upper : 'X' ∉ characters

/-- What is laid out with a foreign character cannot be read, whatever its sign. -/
theorem isUnreadable_append
    {characters : List Char}
    (foreign : ∃ character ∈ ['.', 'e', 'n'], character ∈ characters)
    (laidOut : ∀ character ∈ characters, IsLaidOut character)
    (negative : Bool) :
    IsUnreadable ((if negative then ['-'] else []) ++ characters) := by
  have signed : ∀ character ∈ (if negative then ['-'] else []) ++ characters,
      IsLaidOut character := by
    rw [List.forall_mem_append]
    refine ⟨?_, laidOut⟩
    cases negative with
    | false =>
        exact nofun
    | true =>
        exact List.forall_mem_singleton.2 (.inr (by decide))
  rcases foreign with ⟨character, isForeign, member⟩
  refine ⟨⟨character, isForeign, List.mem_append_right _ member⟩, ?_, ?_⟩
  · intro inside
    exact absurd (signed _ inside) (by unfold IsLaidOut; decide)
  · intro inside
    exact absurd (signed _ inside) (by unfold IsLaidOut; decide)

theorem isUnreadable_toText
    (number : Double) :
    IsUnreadable number.toText.toList := by
  cases number with
  | nan =>
      exact ⟨⟨'n', by decide, by decide⟩, by decide, by decide⟩
  | infinite negative =>
      cases negative with
      | false =>
          exact ⟨⟨'n', by decide, by decide⟩, by decide, by decide⟩
      | true =>
          exact ⟨⟨'n', by decide, by decide⟩, by decide, by decide⟩
  | finite negative units =>
      unfold toText
      dsimp only
      split
      · rw [String.toList_ofList]
        apply isUnreadable_append ⟨'.', by decide, by decide⟩
        intro character member
        simp only [List.mem_cons, List.not_mem_nil, or_false] at member
        rcases member with rfl | rfl | rfl
        · exact .inl rfl
        · exact .inr (by decide)
        · exact .inl rfl
      · rw [String.toList_ofList]
        apply isUnreadable_append (exists_mem_layOut _ _)
        exact forall_isLaidOut_layOut (areDigits_dropFinalZeros (areDigits_decimalDigits _)) _

theorem toText_ne_empty
    (number : Double) :
    number.toText ≠ "" := by
  intro empty
  rcases number.isUnreadable_toText.foreign with ⟨character, -, member⟩
  rw [empty] at member
  cases member

/-- The text of a floating-point number is no amount, not even that of a whole one. -/
theorem read_toText
    (number : Double) :
    Amount.read (.text number.toText) = .error (.invalidAmount (.text number.toText)) := by
  rcases number.isUnreadable_toText with ⟨⟨character, isForeign, member⟩, lower, upper⟩
  apply Amount.read_of_isForeign (isForeign_of_mem isForeign) member
  apply afterHexMark_of_not_mem
  · exact fun inside => lower (mem_of_mem_stripEnds inside)
  · exact fun inside => upper (mem_of_mem_stripEnds inside)

end Double

/-! ## Lists -/

/-- The text of a list stands in brackets. -/
theorem Json.exists_toList_print
    {marks : ObjectMarks}
    {items : List Json}
    {written : String}
    (printed : printIn marks (.array items) = .ok written) :
    ∃ inside, written.toList = '[' :: inside ++ [']'] := by
  rw [printIn] at printed
  split at printed
  · cases printed
    refine ⟨(", ".intercalate (quotedItems marks items)).toList, ?_⟩
    have same : shownIn marks (.array items) =
        "[" ++ ", ".intercalate (quotedItems marks items) ++ "]" := by
      rw [← quotedIn]
      rfl
    rw [same, String.toList_append, String.toList_append]
    rfl
  · cases printed

/-! ## Negative integers -/

namespace Amount

theorem toList_toString_negSucc
    (amount : Nat) :
    (toString (Int.negSucc amount)).toList = '-' :: decimalDigits (amount + 1) := by
  simp [toString, Int.repr, decimalDigits, Nat.repr]

/-- The text of a negative integer is no amount. -/
theorem read_text_negSucc
    {amount : Nat}
    (printable : amount + 1 < 10 ^ numeralLimit) :
    read (.text (toString (Int.negSucc amount))) =
      .error (.negativeAmount (.text (toString (Int.negSucc amount)))) := by
  have written := toList_toString_negSucc amount
  have noBlank : ∀ character ∈ '-' :: decimalDigits (amount + 1), isBlank character = false :=
    List.forall_mem_cons.2 ⟨by decide, fun character member =>
      not_isBlank_of_isDigit (areDigits_decimalDigits _ character member)⟩
  have noGap : ∀ character ∈ '-' :: decimalDigits (amount + 1),
      isNumeralGap character = false := by
    intro character member
    rw [isNumeralGap, noBlank character member, Bool.false_and]
  have integer : readTrimmed ('-' :: decimalDigits (amount + 1)) =
      some (Int.negSucc amount) := by
    have noHex : afterHexMark ('-' :: decimalDigits (amount + 1)) = none := rfl
    rw [readTrimmed, noHex, readInteger, String.toList_ofList, stripEnds_eq_self noGap,
      readSigned, readUnsigned_decimalDigits printable]
    rfl
  rw [read_text, ofText, written, trimList, stripEnds_eq_self noBlank, integer]
  simp only [List.isEmpty_cons, Bool.false_eq_true, if_false, checkSign, Int.negSucc_lt_zero,
    if_true]
  rfl

/-- An integer that can be read from its text as an amount is that amount. -/
theorem eq_of_read_print
    {value : Int}
    {written : String}
    (printed : Json.print (.int value) = .ok written)
    {amount : Nat}
    (readable : read (.text written) = .ok amount) :
    value = amount := by
  rw [Json.print, Json.printIn] at printed
  split at printed
  · next showable =>
      have sameLimit : numeralLimit = Json.digitLimit := rfl
      have printable := Json.isShowable_int_iff.1 showable
      rw [← sameLimit] at printable
      cases printed
      cases value with
      | ofNat size =>
          have readBack : read (.text (decimalText size)) = .ok size :=
            read_decimalText printable
          cases readBack.symm.trans readable
          rfl
      | negSucc size =>
          cases (read_text_negSucc printable).symm.trans readable
  · cases printed

theorem ne_empty_of_print
    {value : Int}
    {written : String}
    (printed : Json.print (.int value) = .ok written) :
    written ≠ "" := by
  rw [Json.print, Json.printIn] at printed
  split at printed
  · cases printed
    cases value with
    | ofNat size =>
        exact decimalText_ne_empty size
    | negSucc size =>
        intro empty
        have none := congrArg String.toList empty
        cases (toList_toString_negSucc size).symm.trans none
  · cases printed

end Amount

end Holdings
