import Holdings.Json.Parser
import Holdings.Proofs.Text.Digits

/-!
# The limits of reading

A reader has room for so many arrays and objects within each other, and reads
integers of so many digits.  A text of one opening bracket more than there is room
for is too deep.  An integer in the place of a result is read as it is written as long
as its digits are no more than are allowed, and refused beyond that.
-/

namespace Holdings.Json

open Holdings.Text

/-! ## Room -/

theorem skipGap_brackets
    (depth : Nat) :
    skipGap (List.replicate depth '[') = List.replicate depth '[' := by
  cases depth <;> rfl

/-- Opening brackets are read one by one until there is no room for the next one. -/
theorem readValue_brackets
    {cap : DigitCap}
    {fuel room depth : Nat}
    (fuelled : 2 * room < fuel)
    (deep : room < depth) :
    readValue cap fuel room (List.replicate depth '[') = .error .tooDeep := by
  induction room generalizing fuel depth with
  | zero =>
      rcases Nat.exists_eq_add_of_lt fuelled with ⟨less, rfl⟩
      rcases Nat.exists_eq_add_of_lt deep with ⟨further, rfl⟩
      rfl
  | succ room induction =>
      rcases Nat.exists_eq_add_of_le' (show 2 ≤ fuel by omega) with ⟨less, rfl⟩
      rcases Nat.exists_eq_add_of_le' (show 2 ≤ depth by omega) with ⟨further, rfl⟩
      have within : readValue cap less room (List.replicate (further + 1) '[') = .error .tooDeep :=
        induction (by omega) (by omega)
      have items :
          readItems cap (less + 1) room (List.replicate (further + 1) '[') = .error .tooDeep := by
        rw [readItems, within]
      rw [List.replicate_succ] at items
      rw [List.replicate_succ, readValue, skipGap_brackets, List.replicate_succ]
      simp only [Nat.add_one_ne_zero, if_false, Nat.add_sub_cancel]
      split
      · next closing =>
        cases closing
      · rw [items]

theorem parseBody_brackets
    {depth : Nat}
    (deep : nestingLimit < depth) :
    parseBody (String.ofList (List.replicate depth '[')) = .error .tooDeep := by
  rw [parseBody, parseWithin, String.toList_ofList, skipGap_brackets,
    readValue_brackets (by rw [List.length_replicate]; omega) deep]

/-! ## Digits -/

/-- What becomes of an integer when it is read, with no more digits than are allowed. -/
def readCapped
    (cap : DigitCap)
    (value : Nat) :
    Except ReadFault Json :=
  if cap.any (· < digitCount value) then .error .tooManyDigits else .ok (.int value)

theorem isAsciiDigit_of_mem_decimalDigits
    {value : Nat}
    {character : Char}
    (member : character ∈ decimalDigits value) :
    isAsciiDigit character = true := by
  have digit := areDigits_decimalDigits value character member
  simpa [isAsciiDigit, Char.isDigit, Char.le_def] using digit

/-- The digits of a number before the end of an object are read as far as they are allowed. -/
theorem readNumber_decimalDigits
    (cap : DigitCap)
    (value : Nat)
    (rest : List Char) :
    readNumber cap false (decimalDigits value ++ '\x7d' :: rest) =
      (readCapped cap value).map fun number => (number, '\x7d' :: rest) := by
  have run :
      (decimalDigits value ++ '\x7d' :: rest).takeWhile isAsciiDigit = decimalDigits value := by
    rw [List.takeWhile_append_of_pos fun character => isAsciiDigit_of_mem_decimalDigits,
      List.takeWhile_cons_of_neg (by decide), List.append_nil]
  have whole :
      (if (decimalDigits value).head? = some '0' then ['0'] else decimalDigits value) =
        decimalDigits value := by
    split
    · next startsWithZero =>
      exact (hasNoLeadingZero_decimalDigits value startsWithZero).symm
    · rfl
  have someDigit : (decimalDigits value).isEmpty = false := by
    rw [List.isEmpty_eq_false_iff]
    exact List.ne_nil_of_length_pos (digitCount_pos value)
  have size : ofDigits 10 (asciiDigitValues (decimalDigits value)) = value :=
    (ofDigits_map_asciiDigitValue _).trans (digitsValue_decimalDigits value)
  have noFraction : readFraction ('\x7d' :: rest) = none := rfl
  have noExponent : readExponent ('\x7d' :: rest) = none := rfl
  unfold readNumber
  simp only [run, whole, someDigit, List.drop_left, noFraction, noExponent, Option.map_none,
    Option.getD_none, Option.isNone_none, Bool.and_self, if_true, size]
  rw [readCapped, digitCount]
  by_cases beyond : cap.any (· < (decimalDigits value).length) = true
  · simp only [beyond, if_true]
    rfl
  · simp only [beyond]
    rfl

theorem not_isGap_of_isAsciiDigit
    {character : Char}
    (digit : isAsciiDigit character = true) :
    ¬ isGap character = true := by
  simp only [isGap, Bool.or_eq_true, decide_eq_true_eq]
  rintro (((rfl | rfl) | rfl) | rfl) <;> exact absurd digit (by decide)

theorem readValue_of_isAsciiDigit
    {first : Char}
    (digit : isAsciiDigit first = true)
    (cap : DigitCap)
    (fuel room : Nat)
    (rest : List Char) :
    readValue cap (fuel + 1) room (first :: rest) = readNumber cap false (first :: rest) := by
  have notDigit {other : Char} (same : first = other) (noDigit : isAsciiDigit other = false) :
      False := by
    rw [← same, digit] at noDigit
    cases noDigit
  unfold readValue
  split
  · next same =>
    exact (notDigit (List.cons.inj same).1 rfl).elim
  · next same =>
    exact (notDigit (List.cons.inj same).1 rfl).elim
  · next same =>
    exact (notDigit (List.cons.inj same).1 rfl).elim
  · next same =>
    exact (notDigit (List.cons.inj same).1 rfl).elim
  · next same =>
    cases same
    rw [if_pos digit]
  · next same =>
    cases same

/-- The one member of an object whose result is a number, with the end of the object. -/
def resultMember
    (value : Nat) :
    List Char :=
  ['"', 'r', 'e', 's', 'u', 'l', 't', '"', ':'] ++ (decimalDigits value ++ ['\x7d'])

/-- A body whose result is a number. -/
def resultBody
    (value : Nat) :
    String :=
  String.ofList ('\x7b' :: resultMember value)

theorem readMembers_resultMember
    (cap : DigitCap)
    (fuel room value : Nat) :
    readMembers cap (fuel + 2) room (resultMember value) =
      (readCapped cap value).map fun number => ([("result", number)], []) := by
  obtain ⟨first, rest, digits, digit⟩ :
      ∃ first rest, decimalDigits value = first :: rest ∧ isAsciiDigit first = true := by
    cases digits : decimalDigits value with
    | nil =>
        exact absurd digits (List.ne_nil_of_length_pos (digitCount_pos value))
    | cons first rest =>
        exact ⟨first, rest, rfl, isAsciiDigit_of_mem_decimalDigits (by rw [digits]; simp)⟩
  have name :
      readText (resultMember value).tail =
        .ok ("result", ':' :: (decimalDigits value ++ ['\x7d'])) :=
    rfl
  have opening : resultMember value = '"' :: (resultMember value).tail := rfl
  have colon (characters : List Char) : skipGap (':' :: characters) = ':' :: characters := rfl
  have start : skipGap (decimalDigits value ++ ['\x7d']) = decimalDigits value ++ ['\x7d'] := by
    rw [digits, List.cons_append, skipGap,
      List.dropWhile_cons_of_neg (not_isGap_of_isAsciiDigit digit)]
  have number :
      readValue cap (fuel + 1) room (decimalDigits value ++ ['\x7d']) =
        (readCapped cap value).map fun number => (number, ['\x7d']) := by
    rw [← readNumber_decimalDigits, digits, List.cons_append,
      readValue_of_isAsciiDigit digit]
  rw [opening, readMembers, name]
  simp only [colon, start, number]
  cases readCapped cap value <;> rfl

theorem readValue_resultMember
    (cap : DigitCap)
    (fuel room value : Nat) :
    readValue cap (fuel + 3) (room + 1) ('\x7b' :: resultMember value) =
      (readCapped cap value).map fun number => (.object [("result", number)], []) := by
  have start : skipGap (resultMember value) = resultMember value := rfl
  rw [readValue, start]
  simp only [Nat.add_one_ne_zero, if_false, Nat.add_sub_cancel]
  split
  · next closing =>
    cases closing
  · rw [readMembers_resultMember]
    cases readCapped cap value <;> rfl

/-- A body whose result is a number is read as far as the digits of the number are allowed. -/
theorem parseWithin_resultBody
    (room : Nat)
    (cap : DigitCap)
    (value : Nat) :
    parseWithin (room + 1) cap (resultBody value) =
      (readCapped cap value).map fun number => .object [("result", number)] := by
  have start : skipGap ('\x7b' :: resultMember value) = '\x7b' :: resultMember value := rfl
  obtain ⟨fuel, enough⟩ :
      ∃ fuel, 2 * ('\x7b' :: resultMember value).length + 2 = fuel + 3 :=
    ⟨2 * (resultMember value).length + 1, by rw [List.length_cons]; omega⟩
  rw [parseWithin, resultBody, String.toList_ofList, start, enough, readValue_resultMember]
  cases readCapped cap value <;> rfl

theorem parse_none_resultBody
    (value : Nat) :
    parse none (resultBody value) = .ok (.object [("result", .int value)]) := by
  have long : (resultBody value).length = (resultMember value).length + 1 := by
    rw [resultBody, String.length_ofList, List.length_cons]
  rw [parse, long, parseWithin_resultBody]
  rfl

/-- A result with more digits than a number may have is refused. -/
theorem parseBody_resultBody
    {value : Nat}
    (long : 10 ^ digitLimit ≤ value) :
    parseBody (resultBody value) = .error .tooManyDigits := by
  have beyond : digitLimit < digitCount value := by
    rw [← Nat.not_le, digitCount_le_iff (by decide)]
    exact Nat.not_lt.2 long
  rw [parseBody, nestingLimit, parseWithin_resultBody, readCapped, if_pos]
  · rfl
  · exact decide_eq_true beyond

end Holdings.Json
