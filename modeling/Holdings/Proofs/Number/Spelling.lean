import Holdings.Number.Numeral
import Mathlib.Data.List.Forall2

/-!
# How decimal numerals are spelled

A decimal numeral is spelled by an optional sign, by digits of any script with at most one point
among them, and by an optional exponent behind its letter; there is a digit in front of the
exponent.  The blanks around a text and the underscores in it are no part of the spelling.

The reader of numerals accepts the texts that spell a numeral in the range in which decimal
numbers are kept, and no others.  It reads what is spelled, so no text spells two numerals.
-/

namespace Holdings.Numeral

open Holdings.Text

/-! ## Digits -/

/-- The values of characters that are digits of any script, one by one. -/
def SpellsDigits
    (characters : List Char)
    (digits : List Nat) :
    Prop :=
  List.Forall₂ (fun character digit => digitValue? character = some digit) characters digits

/-- The characters of a numeral that are no digits. -/
def marks : List Char := ['+', '-', '.', 'e', 'E']

theorem digitValue?_of_mem_marks
    {character : Char}
    (isMark : character ∈ marks) :
    digitValue? character = none := by
  simp only [marks, List.mem_cons, List.not_mem_nil, or_false] at isMark
  rcases isMark with rfl | rfl | rfl | rfl | rfl
  · decide
  · decide
  · decide
  · decide
  · decide

/-- Whether digits that stand in front of characters end there. -/
def EndsDigits
    (characters : List Char) :
    Prop :=
  ∀ character ∈ characters.head?, digitValue? character = none

theorem endsDigits_nil :
    EndsDigits [] := by
  simp [EndsDigits]

theorem endsDigits_cons
    {first : Char}
    (noDigit : digitValue? first = none)
    (rest : List Char) :
    EndsDigits (first :: rest) := by
  simpa [EndsDigits] using noDigit

theorem takeDigits_of_endsDigits
    {characters : List Char}
    (ends : EndsDigits characters) :
    takeDigits characters = ([], characters) := by
  cases characters with
  | nil =>
      rfl
  | cons first rest =>
      rw [takeDigits, ends first rfl]

/-- Digits are taken up to the first character that is none. -/
theorem takeDigits_append
    {front rest : List Char}
    {digits : List Nat}
    (spelled : SpellsDigits front digits)
    (ends : EndsDigits rest) :
    takeDigits (front ++ rest) = (digits, rest) := by
  induction spelled with
  | nil =>
      exact takeDigits_of_endsDigits ends
  | cons here _ induction =>
      rw [List.cons_append, takeDigits, here, induction]

/-- What is taken is spelled in front of what remains. -/
theorem exists_of_takeDigits
    {characters rest : List Char}
    {digits : List Nat}
    (taken : takeDigits characters = (digits, rest)) :
    ∃ front, characters = front ++ rest ∧ SpellsDigits front digits ∧ EndsDigits rest := by
  induction characters generalizing digits rest with
  | nil =>
      cases taken
      exact ⟨[], rfl, .nil, endsDigits_nil⟩
  | cons first later induction =>
      rw [takeDigits] at taken
      cases value : digitValue? first with
      | none =>
          rw [value] at taken
          cases taken
          exact ⟨[], rfl, .nil, endsDigits_cons value later⟩
      | some digit =>
          rw [value] at taken
          cases taken
          rcases induction rfl with ⟨front, split, spelled, ends⟩
          exact ⟨first :: front, congrArg (first :: ·) split, .cons value spelled, ends⟩

/-! ## Signs -/

/-- How a sign is written, and whether it is a minus; no sign is a plus. -/
inductive SpellsSign : List Char → Bool → Prop where
  | unsigned :
      SpellsSign [] false
  | plus :
      SpellsSign ['+'] false
  | minus :
      SpellsSign ['-'] true

/-- Whether characters start with neither sign. -/
def StartsUnsigned
    (characters : List Char) :
    Prop :=
  ∀ character ∈ characters.head?, character ≠ '+' ∧ character ≠ '-'

theorem takeSign_append
    {sign rest : List Char}
    {negative : Bool}
    (signed : SpellsSign sign negative)
    (starts : StartsUnsigned rest) :
    takeSign (sign ++ rest) = (negative, rest) := by
  cases signed with
  | plus =>
      rfl
  | minus =>
      rfl
  | unsigned =>
      cases rest with
      | nil =>
          rfl
      | cons first later =>
          rcases starts first rfl with ⟨notPlus, notMinus⟩
          simp [takeSign, notPlus, notMinus]

theorem exists_of_takeSign
    {characters rest : List Char}
    {negative : Bool}
    (taken : takeSign characters = (negative, rest)) :
    ∃ sign, characters = sign ++ rest ∧ SpellsSign sign negative := by
  unfold takeSign at taken
  split at taken
  · cases taken
    exact ⟨['-'], rfl, .minus⟩
  · cases taken
    exact ⟨['+'], rfl, .plus⟩
  · cases taken
    exact ⟨[], rfl, .unsigned⟩

theorem startsUnsigned_of_digit
    {first : Char}
    {digit : Nat}
    (isDigit : digitValue? first = some digit)
    (rest : List Char) :
    StartsUnsigned (first :: rest) := by
  intro character isFirst
  cases isFirst
  constructor
  · rintro rfl
    rw [digitValue?_of_mem_marks (by decide)] at isDigit
    cases isDigit
  · rintro rfl
    rw [digitValue?_of_mem_marks (by decide)] at isDigit
    cases isDigit

/-! ## Digits around a point -/

/-- Digits with at most one point among them: those in front of it and those behind it. -/
inductive SpellsPlaces : List Char → List Nat → List Nat → Prop where
  | whole
      {characters : List Char}
      {digits : List Nat}
      (spelled : SpellsDigits characters digits) :
      SpellsPlaces characters digits []
  | pointed
      {front back : List Char}
      {whole places : List Nat}
      (inFront : SpellsDigits front whole)
      (behind : SpellsDigits back places) :
      SpellsPlaces (front ++ '.' :: back) whole places

theorem takePlaces_append
    {characters rest : List Char}
    {whole places : List Nat}
    (spelled : SpellsPlaces characters whole places)
    (ends : EndsDigits rest)
    (noPoint : ∀ character ∈ rest.head?, character ≠ '.') :
    takePlaces (characters ++ rest) = (whole, places, rest) := by
  cases spelled with
  | whole spelled =>
      rw [takePlaces, takeDigits_append spelled ends]
      cases rest with
      | nil =>
          rfl
      | cons first later =>
          simp [noPoint first rfl]
  | @pointed front back _ _ inFront behind =>
      have endsAtPoint : EndsDigits ('.' :: (back ++ rest)) :=
        endsDigits_cons (digitValue?_of_mem_marks (by decide)) _
      rw [List.append_assoc, List.cons_append, takePlaces, takeDigits_append inFront endsAtPoint]
      simp only [takeDigits_append behind ends]

theorem exists_of_takePlaces
    {characters rest : List Char}
    {whole places : List Nat}
    (taken : takePlaces characters = (whole, places, rest)) :
    ∃ front, characters = front ++ rest ∧ SpellsPlaces front whole places := by
  rw [takePlaces] at taken
  rcases wholeTaken : takeDigits characters with ⟨inFront, afterWhole⟩
  rcases exists_of_takeDigits wholeTaken with ⟨front, split, spelled, -⟩
  rw [wholeTaken] at taken
  dsimp only at taken
  split at taken
  · next afterPoint =>
    rcases placesTaken : takeDigits afterPoint with ⟨behind, remaining⟩
    rcases exists_of_takeDigits placesTaken with ⟨back, backSplit, backSpelled, -⟩
    rw [placesTaken] at taken
    cases taken
    refine ⟨front ++ '.' :: back, ?_, .pointed spelled backSpelled⟩
    rw [split, backSplit, List.append_assoc, List.cons_append]
  · cases taken
    exact ⟨front, split, .whole spelled⟩

theorem startsUnsigned_of_spellsPlaces
    {characters rest : List Char}
    {whole places : List Nat}
    (spelled : SpellsPlaces characters whole places)
    (someDigit : whole ++ places ≠ []) :
    StartsUnsigned (characters ++ rest) := by
  cases spelled with
  | whole spelled =>
      cases spelled with
      | nil =>
          exact absurd rfl someDigit
      | cons here later =>
          exact startsUnsigned_of_digit here _
  | pointed inFront _ =>
      cases inFront with
      | nil =>
          simp [StartsUnsigned]
      | cons here _ =>
          exact startsUnsigned_of_digit here _

/-! ## Exponents -/

/-- An exponent behind its letter; nothing is the exponent zero. -/
inductive SpellsExponent : List Char → Int → Prop where
  | absent :
      SpellsExponent [] 0
  | marked
      {letter : Char}
      {sign characters : List Char}
      {negative : Bool}
      {digits : List Nat}
      (isLetter : letter = 'e' ∨ letter = 'E')
      (signed : SpellsSign sign negative)
      (spelled : SpellsDigits characters digits)
      (someDigit : digits ≠ []) :
      SpellsExponent (letter :: (sign ++ characters))
        (if negative then -(ofDigits 10 digits : Int) else ofDigits 10 digits)

/-- An exponent starts with neither a digit nor a point. -/
theorem endsDigits_of_spellsExponent
    {characters : List Char}
    {exponent : Int}
    (scaled : SpellsExponent characters exponent) :
    EndsDigits characters ∧ ∀ character ∈ characters.head?, character ≠ '.' := by
  cases scaled with
  | absent =>
      exact ⟨endsDigits_nil, by simp⟩
  | marked isLetter _ _ _ =>
      rcases isLetter with rfl | rfl
      · exact ⟨endsDigits_cons (digitValue?_of_mem_marks (by decide)) _, by simp⟩
      · exact ⟨endsDigits_cons (digitValue?_of_mem_marks (by decide)) _, by simp⟩

theorem readExponent_of_spells
    {characters : List Char}
    {exponent : Int}
    (scaled : SpellsExponent characters exponent) :
    readExponent characters = some exponent := by
  cases scaled with
  | absent =>
      rfl
  | @marked letter sign characters negative digits isLetter signed spelled someDigit =>
      have taken : takeDigits characters = (digits, []) := by
        simpa using takeDigits_append spelled endsDigits_nil
      have starts : StartsUnsigned characters := by
        cases spelled with
        | nil =>
            exact absurd rfl someDigit
        | cons here later =>
            exact startsUnsigned_of_digit here _
      rw [readExponent, if_pos isLetter, takeSign_append signed starts]
      dsimp only
      rw [taken]
      cases digits with
      | nil =>
          exact absurd rfl someDigit
      | cons first rest =>
          rfl

theorem spellsExponent_of_readExponent
    {characters : List Char}
    {exponent : Int}
    (read : readExponent characters = some exponent) :
    SpellsExponent characters exponent := by
  cases characters with
  | nil =>
      cases read
      exact .absent
  | cons letter rest =>
      rw [readExponent] at read
      split at read
      · next isLetter =>
        rcases signTaken : takeSign rest with ⟨negative, unsigned⟩
        rcases exists_of_takeSign signTaken with ⟨sign, signSplit, signed⟩
        rcases digitsTaken : takeDigits unsigned with ⟨digits, remaining⟩
        rcases exists_of_takeDigits digitsTaken with ⟨front, split, spelled, -⟩
        rw [signTaken] at read
        dsimp only at read
        rw [digitsTaken] at read
        cases digits with
        | nil =>
            cases read
        | cons first others =>
            cases remaining with
            | cons _ _ =>
                cases read
            | nil =>
                cases read
                rw [signSplit, split, List.append_nil]
                exact .marked isLetter signed spelled (by simp)
      · cases read

/-! ## Numerals -/

/-- Characters spell a numeral; its digits are kept without the zeros in front of them. -/
inductive Spells : List Char → Numeral → Prop where
  | numeral
      {sign mantissa tail : List Char}
      {negative : Bool}
      {whole places : List Nat}
      {exponent : Int}
      (signed : SpellsSign sign negative)
      (placed : SpellsPlaces mantissa whole places)
      (someDigit : whole ++ places ≠ [])
      (scaled : SpellsExponent tail exponent) :
      Spells (sign ++ (mantissa ++ tail))
        ⟨negative, (whole ++ places).dropWhile (· = 0), exponent - places.length⟩

theorem ofCharacters?_eq_some_iff
    {characters : List Char}
    {numeral : Numeral} :
    ofCharacters? characters = some numeral ↔
      Spells characters numeral ∧ numeral.isKept = true := by
  constructor
  · intro read
    rcases signTaken : takeSign characters with ⟨negative, unsigned⟩
    rcases exists_of_takeSign signTaken with ⟨sign, signSplit, signed⟩
    rcases placesTaken : takePlaces unsigned with ⟨whole, places, rest⟩
    rcases exists_of_takePlaces placesTaken with ⟨mantissa, split, placed⟩
    simp only [ofCharacters?, signTaken, placesTaken] at read
    split at read
    · cases read
    · next someDigit =>
      split at read
      · cases read
      · next exponent exponentRead =>
        split at read
        · next isKept =>
          cases read
          refine ⟨?_, isKept⟩
          rw [signSplit, split]
          exact .numeral signed placed (by simpa using someDigit)
            (spellsExponent_of_readExponent exponentRead)
        · cases read
  · rintro ⟨spelled, isKept⟩
    cases spelled with
    | @numeral sign mantissa tail negative whole places exponent signed placed someDigit scaled =>
        rcases endsDigits_of_spellsExponent scaled with ⟨ends, noPoint⟩
        have notEmpty : (whole ++ places).isEmpty = false := by
          simpa using someDigit
        have starts : StartsUnsigned (mantissa ++ tail) :=
          startsUnsigned_of_spellsPlaces placed someDigit
        simp only [ofCharacters?, takeSign_append signed starts,
          takePlaces_append placed ends noPoint, notEmpty, readExponent_of_spells scaled,
          Bool.false_eq_true, if_false, isKept, if_true]

/-- A text spells a numeral in the range in which decimal numbers are kept. -/
structure IsSpelledBy
    (numeral : Numeral)
    (text : String) :
    Prop where
  spells : Spells ((trimList text.toList).filter (· ≠ '_')) numeral
  isKept : numeral.isKept = true

/-- Exactly the texts that spell a numeral are read, and as what they spell. -/
theorem ofText?_eq_some_iff
    {text : String}
    {numeral : Numeral} :
    ofText? text = some numeral ↔ numeral.IsSpelledBy text := by
  rw [ofText?, ofCharacters?_eq_some_iff]
  constructor
  · rintro ⟨spells, isKept⟩
    exact ⟨spells, isKept⟩
  · rintro ⟨spells, isKept⟩
    exact ⟨spells, isKept⟩

end Holdings.Numeral
