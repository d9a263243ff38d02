import Holdings.Proofs.Text.Ends
import Holdings.Text.Lowercase
import Mathlib.Data.List.Basic

/-!
# Texts in small letters

Lower-casing leaves no capital behind: no run of capitals leads into another one,
nor to the dotted capital that no run holds.  So a text that was lower-cased once is
left alone, wherever its letters stand.  As no letter becomes a blank, a text whose
ends are bare keeps them so.
-/

namespace Holdings.Text

/-! ## Runs of capitals -/

/-- The run of the capitals of ASCII. -/
def asciiCapitals : CapitalRun := ⟨0x41, 0x5A, 1, 32⟩

theorem first_of_mem :
    ∀ run ∈ capitalRuns, run = asciiCapitals ∨ 128 ≤ run.first := by
  decide +kernel

/-- The bounds between which the small letters of a run lie. -/
def CapitalRun.small
    (run : CapitalRun) :
    CodeRange :=
  ⟨(run.first + run.distance).toNat, (run.last + run.distance).toNat⟩

/-- Whether the letters of a run are two places apart, if there is more than one. -/
def CapitalRun.isInTwos
    (run : CapitalRun) :
    Bool :=
  run.step == 2 || run.first == run.last

/-- Whether two ranges have no character in common. -/
def CodeRange.misses
    (range other : CodeRange) :
    Bool :=
  range.last.blt other.first || other.last.blt range.first

/-- Whether no small letter of a run is a capital of another; the two may take turns. -/
def CapitalRun.misses
    (run other : CapitalRun) :
    Bool :=
  run.small.misses ⟨other.first, other.last⟩ ||
    (other.step == 2 && run.isInTwos && (run.small.first + other.first) % 2 == 1)

/-- The code points that are no characters, and the dotted capital, which no run holds. -/
def outsideRuns : List CodeRange := [⟨0xD800, 0xDFFF⟩, ⟨0x130, 0x130⟩]

/-- Whether the small letters of a run are characters, but no capitals and no blanks. -/
def CapitalRun.isFinal
    (run : CapitalRun) :
    Bool :=
  decide (0 ≤ run.first + run.distance) && run.small.last.blt 0x110000 &&
    capitalRuns.all run.misses && (outsideRuns ++ blanks).all run.small.misses

theorem all_isFinal :
    capitalRuns.all CapitalRun.isFinal = true := by
  decide +kernel

theorem CodeRange.holds_eq_false_of_misses
    {range other : CodeRange}
    (missed : range.misses other = true)
    {character : Char}
    (within : range.holds character = true) :
    other.holds character = false := by
  rw [CodeRange.holds_iff] at within
  rw [Bool.eq_false_iff, ne_eq, CodeRange.holds_iff]
  simp only [misses, Bool.or_eq_true, Nat.blt_eq] at missed
  omega

/-- The small letter of a capital of a run is the character at the run's distance. -/
theorem CapitalRun.toNat_small
    {run : CapitalRun}
    (final : run.isFinal = true)
    {character : Char}
    (held : run.holds character = true) :
    ((Char.ofNat (character.toNat + run.distance).toNat).toNat : Int) =
      character.toNat + run.distance := by
  simp only [holds, Bool.and_eq_true, decide_eq_true_eq] at held
  simp only [isFinal, outsideRuns, small, CodeRange.misses, List.cons_append, List.all_cons,
    Bool.and_eq_true, Bool.or_eq_true, decide_eq_true_eq, Nat.blt_eq] at final
  have valid : (character.toNat + run.distance).toNat.isValidChar := by
    unfold Nat.isValidChar
    omega
  have place : (Char.ofNat (character.toNat + run.distance).toNat).toNat =
      (character.toNat + run.distance).toNat := by
    rw [Char.ofNat, dif_pos valid]
    exact UInt32.toNat_ofNatLT ..
  rw [place]
  omega

theorem CapitalRun.holds_small
    {run : CapitalRun}
    (final : run.isFinal = true)
    {character : Char}
    (held : run.holds character = true) :
    run.small.holds (Char.ofNat (character.toNat + run.distance).toNat) = true := by
  have place := toNat_small final held
  simp only [holds, Bool.and_eq_true, decide_eq_true_eq] at held
  rw [CodeRange.holds_iff]
  simp only [small]
  omega

/-- No run holds the small letter of a capital. -/
theorem CapitalRun.holds_eq_false_of_misses
    {run other : CapitalRun}
    (final : run.isFinal = true)
    (missed : run.misses other = true)
    {character : Char}
    (held : run.holds character = true) :
    other.holds (Char.ofNat (character.toNat + run.distance).toNat) = false := by
  have place := toNat_small final held
  have between := holds_small final held
  rw [misses, Bool.or_eq_true] at missed
  rcases missed with apart | turns
  · have outside := CodeRange.holds_eq_false_of_misses apart between
    rw [holds, Bool.and_eq_false_iff]
    exact .inl outside
  · simp only [Bool.and_eq_true, beq_iff_eq, isInTwos, Bool.or_eq_true, small] at turns
    rcases turns with ⟨⟨inTwos, ownTwos⟩, odd⟩
    simp only [isFinal, Bool.and_eq_true, decide_eq_true_eq] at final
    simp only [holds, Bool.and_eq_true, decide_eq_true_eq] at held
    have even : (character.toNat - run.first) % 2 = 0 := by
      rcases ownTwos with two | single
      · have inStep := held.2
        rwa [two] at inStep
      · omega
    rw [Bool.eq_false_iff]
    intro there
    simp only [holds, Bool.and_eq_true, decide_eq_true_eq, inTwos] at there
    omega

/-! ## Single letters -/

/-- A character that lower-casing leaves alone, wherever it stands. -/
structure IsSmall
    (character : Char) :
    Prop where
  noCapital : ∀ run ∈ capitalRuns, run.holds character = false
  notDotted : character ≠ 'İ'

theorem toNat_toLower
    (character : Char) :
    character.toLower.toNat =
      if 65 ≤ character.toNat ∧ character.toNat ≤ 90 then
        character.toNat + 32
      else
        character.toNat := by
  unfold Char.toLower
  split
  · next capital =>
    have bounds : 65 ≤ character.toNat ∧ character.toNat ≤ 90 := capital
    have small : (character.val + 32).toNat = (character.toNat + 32) % 2 ^ 32 :=
      UInt32.toNat_add ..
    rw [if_pos bounds]
    exact small.trans (Nat.mod_eq_of_lt (by omega))
  · next other =>
    have outside : ¬ (65 ≤ character.toNat ∧ character.toNat ≤ 90) := other
    rw [if_neg outside]

theorem isSmall_of_ascii
    {character : Char}
    (ascii : character.toNat < 128)
    (noCapital : ¬ (65 ≤ character.toNat ∧ character.toNat ≤ 90)) :
    IsSmall character := by
  constructor
  · intro run member
    rw [Bool.eq_false_iff]
    intro held
    simp only [CapitalRun.holds, Bool.and_eq_true, decide_eq_true_eq] at held
    rcases first_of_mem run member with rfl | beyond
    · simp only [asciiCapitals] at held
      omega
    · omega
  · rintro rfl
    exact absurd ascii (by decide)

/-- The small letter of a capital of a run is small, and is no blank. -/
theorem isSmall_of_holds
    {run : CapitalRun}
    (member : run ∈ capitalRuns)
    {character : Char}
    (held : run.holds character = true) :
    IsSmall (Char.ofNat (character.toNat + run.distance).toNat) ∧
      isBlank (Char.ofNat (character.toNat + run.distance).toNat) = false := by
  have final : run.isFinal = true := List.all_eq_true.mp all_isFinal run member
  have between := CapitalRun.holds_small final held
  have parts := final
  simp only [CapitalRun.isFinal, Bool.and_eq_true, List.all_eq_true] at parts
  rcases parts with ⟨⟨-, others⟩, outside⟩
  refine ⟨⟨?_, ?_⟩, ?_⟩
  · intro other among
    exact CapitalRun.holds_eq_false_of_misses final (others other among) held
  · intro dotted
    have apart := CodeRange.holds_eq_false_of_misses
      (outside ⟨0x130, 0x130⟩ (by simp [outsideRuns])) between
    rw [dotted] at apart
    exact absurd apart (by decide)
  · rw [isBlank, inTable, List.any_eq_false]
    intro range blank
    rw [CodeRange.holds_eq_false_of_misses
      (outside range (List.mem_append_right _ blank)) between]
    exact Bool.false_ne_true

/-- A letter is left alone, or becomes a small one that is no blank. -/
theorem lowerChar_cases
    (character : Char) :
    (lowerChar character = character ∧ (character ≠ 'İ' → IsSmall character)) ∨
      IsSmall (lowerChar character) ∧ isBlank (lowerChar character) = false := by
  unfold lowerChar
  split
  · next ascii =>
    have place := toNat_toLower character
    by_cases capital : 65 ≤ character.toNat ∧ character.toNat ≤ 90
    · rw [if_pos capital] at place
      refine .inr ⟨isSmall_of_ascii (by omega) (by omega), ?_⟩
      rw [isBlank, inTable, List.any_eq_false]
      simp only [blanks, List.mem_cons, List.not_mem_nil, or_false, forall_eq_or_imp,
        forall_eq, CodeRange.holds_iff]
      omega
    · rw [if_neg capital] at place
      have same : character.toLower = character := Char.toNat_inj.mp place
      exact .inl ⟨same, fun _ => isSmall_of_ascii ascii capital⟩
  · cases found : capitalRuns.find? fun run => run.holds character with
    | some run =>
        have held := List.find?_some found
        exact .inr (isSmall_of_holds (List.mem_of_find?_eq_some found) held)
    | none =>
        refine .inl ⟨rfl, fun notDotted => ⟨?_, notDotted⟩⟩
        intro run member
        exact Bool.eq_false_iff.2 (List.find?_eq_none.mp found run member)

theorem isSmall_lowerChar
    {character : Char}
    (notDotted : character ≠ 'İ') :
    IsSmall (lowerChar character) := by
  rcases lowerChar_cases character with ⟨same, small⟩ | ⟨small, -⟩
  · rw [same]
    exact small notDotted
  · exact small

theorem isBlank_lowerChar
    {character : Char}
    (noBlank : isBlank character = false) :
    isBlank (lowerChar character) = false := by
  rcases lowerChar_cases character with ⟨same, -⟩ | ⟨-, stillNone⟩
  · rw [same]
    exact noBlank
  · exact stillNone

namespace IsSmall

variable {character : Char}

theorem lowerChar_eq
    (small : IsSmall character) :
    lowerChar character = character := by
  have none : capitalRuns.find? (fun run => run.holds character) = none := by
    rw [List.find?_eq_none]
    intro run member
    rw [small.noCapital run member]
    exact Bool.false_ne_true
  unfold lowerChar
  split
  · have outside := small.noCapital asciiCapitals (by decide)
    rw [Bool.eq_false_iff] at outside
    apply Char.toNat_inj.mp
    rw [toNat_toLower, if_neg]
    rintro ⟨above, below⟩
    apply outside
    simp [CapitalRun.holds, asciiCapitals, above, below, Nat.mod_one]
  · rw [none]

theorem ne_sigma
    (small : IsSmall character) :
    character ≠ 'Σ' := by
  rintro rfl
  have outside := small.noCapital ⟨0x3A3, 0x3AB, 1, 32⟩ (by decide)
  exact absurd outside (by decide)

end IsSmall

/-! ## Texts -/

/-- What one character becomes between two texts, the one before it given backwards. -/
def loweredAt
    (before : List Char)
    (character : Char)
    (after : List Char) :
    List Char :=
  if character = 'Σ' then
    if seesCased before && !seesCased after then ['ς'] else ['σ']
  else if character = 'İ' then
    ['i', '\u0307']
  else
    [lowerChar character]

theorem lowerAfter_cons
    (before : List Char)
    (character : Char)
    (after : List Char) :
    lowerAfter before (character :: after) =
      loweredAt before character after ++ lowerAfter (character :: before) after :=
  rfl

/-- What any character becomes is some characters, all of them small, and none a blank. -/
theorem loweredAt_cases
    (before : List Char)
    (character : Char)
    (after : List Char) :
    loweredAt before character after ≠ [] ∧
      ∀ lowered ∈ loweredAt before character after,
        IsSmall lowered ∧ (isBlank character = false → isBlank lowered = false) := by
  have special (small : Char)
      (own : small = 'ς' ∨ small = 'σ' ∨ small = 'i' ∨ small = '\u0307') :
      IsSmall small ∧ (isBlank character = false → isBlank small = false) := by
    rcases own with rfl | rfl | rfl | rfl
    all_goals exact ⟨⟨by decide +kernel, by decide⟩, fun _ => by decide⟩
  unfold loweredAt
  split
  · split
    · simpa using special 'ς' (by simp)
    · simpa using special 'σ' (by simp)
  · split
    · refine ⟨by simp, ?_⟩
      intro lowered member
      simp only [List.mem_cons, List.not_mem_nil, or_false] at member
      rcases member with rfl | rfl
      · exact special 'i' (by simp)
      · exact special '\u0307' (by simp)
    · next notDotted =>
      refine ⟨by simp, ?_⟩
      intro lowered member
      rw [List.mem_singleton] at member
      rw [member]
      exact ⟨isSmall_lowerChar notDotted, isBlank_lowerChar⟩

theorem isSmall_of_mem_lowerAfter
    {before characters : List Char} :
    ∀ lowered ∈ lowerAfter before characters, IsSmall lowered := by
  induction characters generalizing before with
  | nil =>
      intro lowered member
      cases member
  | cons character after induction =>
      intro lowered member
      rw [lowerAfter_cons, List.mem_append] at member
      rcases member with here | later
      · exact ((loweredAt_cases before character after).2 lowered here).1
      · exact induction lowered later

/-- Small characters are left alone, whatever stands around them. -/
theorem lowerAfter_of_isSmall
    {before characters : List Char}
    (small : ∀ character ∈ characters, IsSmall character) :
    lowerAfter before characters = characters := by
  induction characters generalizing before with
  | nil =>
      rfl
  | cons character after induction =>
      have here := small character List.mem_cons_self
      rw [lowerAfter_cons, loweredAt, if_neg here.ne_sigma, if_neg here.notDotted,
        here.lowerChar_eq, List.singleton_append,
        induction fun other member => small other (List.mem_cons_of_mem _ member)]

/-- A text that was lower-cased is left alone. -/
@[simp]
theorem lowercase_lowercase
    (text : String) :
    lowercase (lowercase text) = lowercase text := by
  rw [lowercase.eq_def (lowercase text), lowercase, String.toList_ofList,
    lowerAfter_of_isSmall isSmall_of_mem_lowerAfter]

theorem lowerAfter_ne_nil
    {before characters : List Char}
    (present : characters ≠ []) :
    lowerAfter before characters ≠ [] := by
  cases characters with
  | nil =>
      exact absurd rfl present
  | cons character after =>
      rw [lowerAfter_cons]
      exact List.append_ne_nil_of_left_ne_nil (loweredAt_cases before character after).1 _

/-- Lower-casing makes no blanks at the ends of a text. -/
theorem HasBareEnds.lowerAfter
    {before characters : List Char}
    (bare : HasBareEnds isBlank characters) :
    HasBareEnds isBlank (lowerAfter before characters) := by
  constructor
  · cases characters with
    | nil =>
        intro lowered first
        cases first
    | cons character after =>
        rcases loweredAt_cases before character after with ⟨present, each⟩
        intro lowered first
        rw [lowerAfter_cons, List.head?_append_of_ne_nil _ present] at first
        exact (each lowered (List.mem_of_mem_head? first)).2 (bare.first character rfl)
  · have last := bare.last
    clear bare
    induction characters generalizing before with
    | nil =>
        intro lowered isLast
        cases isLast
    | cons character after induction =>
        intro lowered isLast
        rw [lowerAfter_cons] at isLast
        by_cases present : after = []
        · rcases loweredAt_cases before character after with ⟨-, each⟩
          subst present
          rw [Text.lowerAfter, List.append_nil] at isLast
          exact (each lowered (List.mem_of_mem_getLast? isLast)).2 (last character rfl)
        · rw [List.getLast?_append_of_ne_nil _ (lowerAfter_ne_nil present)] at isLast
          rw [List.getLast?_cons_of_ne_nil present] at last
          exact induction last lowered isLast

/-- Trimming has nothing to do after a trimmed text was lower-cased. -/
theorem trim_lowercase_trim
    (text : String) :
    trim (lowercase (trim text)) = lowercase (trim text) := by
  have bare : HasBareEnds isBlank (lowerAfter [] (trimList text.toList)) :=
    (hasBareEnds_stripEnds isBlank text.toList).lowerAfter
  rw [trim.eq_def (lowercase (trim text)), lowercase, toList_trim, String.toList_ofList, trimList,
    bare.stripEnds_eq]

end Holdings.Text
