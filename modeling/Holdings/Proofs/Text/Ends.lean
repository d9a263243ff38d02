import Holdings.Text.Blank
import Holdings.Text.Surrogate
import Mathlib.Data.List.TakeWhile

/-!
# Texts with bare ends

A text whose ends are outside a class of characters loses nothing when the class
is stripped from its ends, and what of the class was put behind it goes again.  A
character outside the class stays, wherever in a text it stands.
The code points of a text of characters are those of the characters.
-/

namespace Holdings.Text

/-! ## Ends -/

/-- Whether a text neither starts nor ends with a character of a class. -/
structure HasBareEnds
    (inClass : Char → Bool)
    (characters : List Char) :
    Prop where
  first : ∀ character ∈ characters.head?, inClass character = false
  last : ∀ character ∈ characters.getLast?, inClass character = false

namespace HasBareEnds

variable {inClass : Char → Bool} {characters : List Char}

theorem dropWhile_eq
    (bare : HasBareEnds inClass characters) :
    characters.dropWhile inClass = characters := by
  cases characters with
  | nil =>
      rfl
  | cons first rest =>
      rw [List.dropWhile_cons_of_neg]
      simp [bare.first first rfl]

theorem reverse
    (bare : HasBareEnds inClass characters) :
    HasBareEnds inClass characters.reverse := by
  constructor
  · simpa using bare.last
  · simpa using bare.first

theorem of_forall
    (outside : ∀ character ∈ characters, inClass character = false) :
    HasBareEnds inClass characters := by
  constructor
  · intro character first
    exact outside character (List.mem_of_mem_head? first)
  · intro character last
    exact outside character (List.mem_of_mem_getLast? last)

theorem of_any
    (outside : characters.any inClass = false) :
    HasBareEnds inClass characters := by
  rw [List.any_eq_false] at outside
  exact of_forall fun character member => Bool.eq_false_iff.2 (outside character member)

/-- A class that is stripped takes all that was put behind a text, and no more. -/
theorem stripEnds_append
    (bare : HasBareEnds inClass characters)
    {padding : List Char}
    (inside : ∀ character ∈ padding, inClass character = true) :
    stripEnds inClass (characters ++ padding) = characters := by
  cases characters with
  | nil =>
      have gone : padding.dropWhile inClass = [] := List.dropWhile_eq_nil_iff.mpr inside
      simp [stripEnds, gone]
  | cons first rest =>
      have outside : ¬ inClass first = true := by
        simp [bare.first first rfl]
      have gone : padding.reverse.dropWhile inClass = [] := by
        rw [List.dropWhile_eq_nil_iff]
        intro character member
        exact inside character (List.mem_reverse.mp member)
      rw [stripEnds, List.cons_append, List.dropWhile_cons_of_neg outside, ← List.cons_append,
        List.reverse_append, List.dropWhile_append, gone, List.isEmpty_nil, if_pos rfl,
        bare.reverse.dropWhile_eq, List.reverse_reverse]

theorem stripEnds_eq
    (bare : HasBareEnds inClass characters) :
    stripEnds inClass characters = characters := by
  have nothing : stripEnds inClass (characters ++ []) = characters :=
    bare.stripEnds_append (by simp)
  rwa [List.append_nil] at nothing

end HasBareEnds

/-- A text without any character of a class loses nothing when the class is stripped. -/
theorem stripEnds_eq_self
    {inClass : Char → Bool}
    {characters : List Char}
    (outside : ∀ character ∈ characters, inClass character = false) :
    stripEnds inClass characters = characters :=
  (HasBareEnds.of_forall outside).stripEnds_eq

theorem head?_dropWhile
    (inClass : Char → Bool)
    (characters : List Char) :
    ∀ character ∈ (characters.dropWhile inClass).head?, inClass character = false := by
  intro character first
  have outside := characters.head?_dropWhile_not inClass
  rw [Option.mem_def.mp first] at outside
  exact outside

/-- The ends of a text from which a class was stripped are outside the class. -/
theorem hasBareEnds_stripEnds
    (inClass : Char → Bool)
    (characters : List Char) :
    HasBareEnds inClass (stripEnds inClass characters) := by
  unfold stripEnds
  constructor
  · intro character first
    -- Stripping the end leaves the other end, unless nothing is left.
    have remains : (characters.dropWhile inClass).reverse.dropWhile inClass <:+
        (characters.dropWhile inClass).reverse :=
      List.dropWhile_suffix inClass
    rcases remains with ⟨stripped, same⟩
    rw [List.head?_reverse] at first
    have isFirst : character ∈ (characters.dropWhile inClass).head? := by
      rw [← List.getLast?_reverse, ← same, List.getLast?_append, Option.mem_def.mp first]
      rfl
    exact head?_dropWhile inClass characters character isFirst
  · intro character last
    rw [List.getLast?_reverse] at last
    exact head?_dropWhile inClass _ character last

/-- A class that is stripped takes all that was put around a text, and no more. -/
theorem HasBareEnds.stripEnds_surrounded
    {inClass : Char → Bool}
    {characters front back : List Char}
    (bare : HasBareEnds inClass characters)
    (inFront : ∀ character ∈ front, inClass character = true)
    (inBack : ∀ character ∈ back, inClass character = true) :
    stripEnds inClass (front ++ characters ++ back) = characters := by
  have ahead : (front ++ characters ++ back).dropWhile inClass =
      (characters ++ back).dropWhile inClass := by
    rw [List.append_assoc, List.dropWhile_append_of_pos inFront]
  have stripped := bare.stripEnds_append inBack
  rwa [stripEnds, ← ahead, ← stripEnds] at stripped

/-- What is stripped from a text stood around what is left of it. -/
theorem exists_stripEnds_split
    (inClass : Char → Bool)
    (characters : List Char) :
    ∃ front back,
      characters = front ++ stripEnds inClass characters ++ back ∧
        (∀ character ∈ front, inClass character = true) ∧
          ∀ character ∈ back, inClass character = true := by
  have ahead := List.takeWhile_append_dropWhile (p := inClass) (l := characters)
  have behind := congrArg List.reverse (List.takeWhile_append_dropWhile
    (p := inClass) (l := (characters.dropWhile inClass).reverse))
  rw [List.reverse_append, List.reverse_reverse] at behind
  refine ⟨characters.takeWhile inClass,
    ((characters.dropWhile inClass).reverse.takeWhile inClass).reverse, ?_, ?_, ?_⟩
  · rw [stripEnds, List.append_assoc, behind, ahead]
  · exact fun character member => List.mem_takeWhile_imp member
  · exact fun character member => List.mem_takeWhile_imp (List.mem_reverse.1 member)

/-- Both ends are stripped alike. -/
theorem stripEnds_reverse
    (inClass : Char → Bool)
    (characters : List Char) :
    stripEnds inClass characters.reverse = (stripEnds inClass characters).reverse := by
  rcases exists_stripEnds_split inClass characters with ⟨front, back, split, inFront, inBack⟩
  have mirrored : characters.reverse =
      back.reverse ++ (stripEnds inClass characters).reverse ++ front.reverse := by
    have reversed := congrArg List.reverse split
    rwa [List.reverse_append, List.reverse_append, ← List.append_assoc] at reversed
  rw [mirrored]
  apply (hasBareEnds_stripEnds inClass characters).reverse.stripEnds_surrounded
  · simpa using inBack
  · simpa using inFront

theorem mem_dropWhile
    {inClass : Char → Bool}
    {characters : List Char}
    {character : Char}
    (outside : inClass character = false)
    (member : character ∈ characters) :
    character ∈ characters.dropWhile inClass := by
  rw [← List.takeWhile_append_dropWhile (p := inClass) (l := characters)] at member
  rcases List.mem_append.1 member with taken | left
  · rw [List.mem_takeWhile_imp taken] at outside
    cases outside
  · exact left

/-- A character outside a class stays when the class is stripped. -/
theorem mem_stripEnds
    {inClass : Char → Bool}
    {characters : List Char}
    {character : Char}
    (outside : inClass character = false)
    (member : character ∈ characters) :
    character ∈ stripEnds inClass characters := by
  rw [stripEnds, List.mem_reverse]
  apply mem_dropWhile outside
  rw [List.mem_reverse]
  exact mem_dropWhile outside member

/-- The first character outside a class is the first that is left when the class is stripped. -/
theorem head?_stripEnds_append_cons
    {inClass : Char → Bool}
    {front : List Char}
    {character : Char}
    (inFront : ∀ character ∈ front, inClass character = true)
    (outside : inClass character = false)
    (rest : List Char) :
    (stripEnds inClass (front ++ character :: rest)).head? = some character := by
  have outside' : ¬ inClass character = true := Bool.eq_false_iff.1 outside
  rw [stripEnds, List.dropWhile_append_of_pos inFront, List.dropWhile_cons_of_neg outside',
    List.head?_reverse, List.reverse_cons, List.dropWhile_append]
  split
  · rw [List.dropWhile_cons_of_neg outside']
    rfl
  · exact List.getLast?_concat

theorem mem_of_mem_stripEnds
    {inClass : Char → Bool}
    {characters : List Char}
    {character : Char}
    (member : character ∈ stripEnds inClass characters) :
    character ∈ characters := by
  rw [stripEnds, List.mem_reverse] at member
  have kept := (List.dropWhile_suffix inClass).subset member
  rw [List.mem_reverse] at kept
  exact (List.dropWhile_suffix inClass).subset kept

/-! ## Code points -/

theorem pointsOf_cons_of_ne
    {character : Char}
    (noMark : character ≠ privateMark)
    (rest : List Char) :
    pointsOf (character :: rest) = pointOf character :: pointsOf rest := by
  cases rest with
  | nil =>
      rfl
  | cons next later =>
      rw [pointsOf, if_neg noMark]

/-- Every ASCII character is its own code point. -/
theorem points_ofList_of_ascii
    {characters : List Char}
    (ascii : ∀ character ∈ characters, character.toNat < 128) :
    points (String.ofList characters) = characters.map Char.toNat := by
  rw [points, String.toList_ofList]
  induction characters with
  | nil =>
      rfl
  | cons first rest induction =>
      have low : first.toNat < 128 := ascii first List.mem_cons_self
      have noMark : first ≠ privateMark := by
        rintro rfl
        exact absurd low (by decide)
      have itself : pointOf first = first.toNat := by
        have noHalf : isHalf (first.toNat - halfDistance) = false := by
          rw [Nat.sub_eq_zero_of_le (by unfold halfDistance; omega)]
          rfl
        simp only [pointOf, noHalf, Bool.false_eq_true, if_false]
      rw [pointsOf_cons_of_ne noMark, itself, List.map_cons,
        induction fun character member => ascii character (List.mem_cons_of_mem _ member)]

theorem pointsOf_holdPoint_append
    (character : Char)
    (rest : List Char) :
    pointsOf (holdPoint character.toNat ++ rest) = character.toNat :: pointsOf rest := by
  have noHalf : isHalf character.toNat = false := by
    have valid : character.toNat < 0xD800 ∨ 0xDFFF < character.toNat ∧ _ := character.valid
    simp only [isHalf, Bool.and_eq_false_iff, decide_eq_false_iff_not]
    omega
  simp only [holdPoint, noHalf, Bool.false_eq_true, if_false, Char.ofNat_toNat]
  split
  · rw [List.cons_append, List.cons_append, List.nil_append, pointsOf, if_pos rfl]
  · next noMarkNeeded =>
    have outside : character.toNat < 0x10D800 ∨ 0x10E000 < character.toNat := by
      simp only [needsMark, Bool.and_eq_true, decide_eq_true_eq] at noMarkNeeded
      omega
    have noMark : character ≠ privateMark := by
      rintro rfl
      exact absurd outside (by decide)
    have itself : isHalf (character.toNat - halfDistance) = false := by
      rw [isHalf, Bool.and_eq_false_iff, decide_eq_false_iff_not, decide_eq_false_iff_not]
      unfold halfDistance
      omega
    rw [List.cons_append, List.nil_append, pointsOf_cons_of_ne noMark, pointOf]
    simp only [itself, Bool.false_eq_true, if_false]

/-- A text of characters has the code points of the characters. -/
theorem points_ofCharacters
    (characters : List Char) :
    points (ofCharacters characters) = characters.map Char.toNat := by
  simp only [points, ofCharacters, ofPoints, String.toList_ofList]
  induction characters with
  | nil =>
      rfl
  | cons character rest induction =>
      rw [List.map_cons, List.flatMap_cons, pointsOf_holdPoint_append, induction]

end Holdings.Text
