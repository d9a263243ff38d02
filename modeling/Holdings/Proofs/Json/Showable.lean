import Holdings.Json.Parser
import Holdings.Proofs.Text.Digits
import Mathlib.Data.List.TakeWhile

/-!
# Values that can be printed

An integer that is read from a body has no more digits than one that is printed
may have.  So every value that comes out of a body can be printed, with all that
is found in it.
-/

namespace Holdings.Json

open Holdings.Text

/-! ## Members -/

theorem areMembersShowable_iff
    {members : List (String × Json)} :
    areMembersShowable members = true ↔ ∀ held ∈ members, held.2.isShowable = true := by
  induction members with
  | nil =>
      simp [areMembersShowable]
  | cons first rest induction =>
      rw [areMembersShowable, Bool.and_eq_true, induction, List.forall_mem_cons]

theorem exists_mem_of_find?
    {members : List (String × Json)}
    {name : String}
    {value : Json}
    (found : find? members name = some value) :
    ∃ held ∈ members, held.2 = value := by
  induction members with
  | nil =>
      cases found
  | cons first rest induction =>
      rcases first with ⟨other, held⟩
      rw [find?, List.lookup_cons] at found
      split at found
      · cases found
        exact ⟨_, List.mem_cons_self, rfl⟩
      · rcases induction found with ⟨later, member, same⟩
        exact ⟨later, List.mem_cons_of_mem _ member, same⟩

theorem isShowable_of_find?
    {members : List (String × Json)}
    {name : String}
    {value : Json}
    (showable : (object members).isShowable = true)
    (found : find? members name = some value) :
    value.isShowable = true := by
  rcases exists_mem_of_find? found with ⟨held, member, rfl⟩
  exact areMembersShowable_iff.1 showable held member

theorem areMembersShowable_setMember
    {members : List (String × Json)}
    (showable : areMembersShowable members = true)
    (name : String)
    {value : Json}
    (valueShowable : value.isShowable = true) :
    areMembersShowable (setMember members name value) = true := by
  induction members with
  | nil =>
      simp [areMembersShowable, valueShowable]
  | cons first rest induction =>
      rw [areMembersShowable, Bool.and_eq_true] at showable
      rw [setMember]
      split
      · simp [areMembersShowable, valueShowable, showable.2]
      · simp [areMembersShowable, showable.1, induction showable.2]

/-- Members that can be printed make an object that can be printed. -/
theorem isShowable_ofMembers
    {members : List (String × Json)}
    (showable : areMembersShowable members = true) :
    (ofMembers members).isShowable = true := by
  have extended (known : List (String × Json)) (knownShowable : areMembersShowable known = true) :
      areMembersShowable
        (members.foldl (fun known member => setMember known member.1 member.2) known) = true := by
    induction members generalizing known with
    | nil =>
        exact knownShowable
    | cons first rest induction =>
        rw [areMembersShowable, Bool.and_eq_true] at showable
        exact induction showable.2 _
          (areMembersShowable_setMember knownShowable first.1 showable.1)
  exact extended [] rfl

/-! ## Numbers and words -/

theorem isShowable_int_iff
    {value : Int} :
    (int value).isShowable = true ↔ value.natAbs < 10 ^ digitLimit := by
  have sameTest (limit : Nat) :
      decide (value.natAbs < Nat.pow 10 limit) = true ↔ value.natAbs < 10 ^ limit :=
    decide_eq_true_iff
  rw [isShowable, withinDigitLimit]
  exact sameTest digitLimit

theorem ofDigits_asciiDigitValues_lt
    {digits : List Char}
    (areDigits : AreDigits digits) :
    ofDigits 10 (asciiDigitValues digits) < 10 ^ digits.length := by
  have same : ofDigits 10 (asciiDigitValues digits) = digitsValue digits :=
    ofDigits_map_asciiDigitValue digits
  rw [same]
  exact digitsValue_lt areDigits

theorem isShowable_of_readNumber
    {negative : Bool}
    {characters rest : List Char}
    {value : Json}
    (read : readNumber (some digitLimit) negative characters = .ok (value, rest)) :
    value.isShowable = true := by
  obtain ⟨whole, sameWhole, areDigits⟩ :
      ∃ whole,
        (if (characters.takeWhile isAsciiDigit).head? = some '0' then ['0']
          else characters.takeWhile isAsciiDigit) = whole ∧ AreDigits whole := by
    refine ⟨_, rfl, ?_⟩
    split
    · simp [AreDigits]
    · intro character member
      simpa [isAsciiDigit, Char.isDigit, Char.le_def] using List.mem_takeWhile_imp member
  unfold readNumber at read
  simp only [sameWhole] at read
  split at read
  · cases read
  · split at read
    · split at read
      · cases read
      · rename_i short
        cases read
        have fewDigits : whole.length ≤ digitLimit := by simpa using short
        have bound : ofDigits 10 (asciiDigitValues whole) < 10 ^ digitLimit :=
          Nat.lt_of_lt_of_le (ofDigits_asciiDigitValues_lt areDigits)
            (Nat.pow_le_pow_right (by decide) fewDigits)
        have sameSize (size : Nat) : (if negative then -(size : Int) else size).natAbs = size := by
          split <;> simp
        rw [isShowable_int_iff, sameSize]
        exact bound
    · cases read
      rfl

theorem isShowable_of_readWord
    {characters rest : List Char}
    {value : Json}
    (read : readWord characters = .ok (value, rest)) :
    value.isShowable = true := by
  unfold readWord at read
  dsimp only at read
  split at read
  · rename_i reading found
    cases read
    rcases List.exists_of_findSome?_eq_some found with ⟨word, member, taken⟩
    rcases Option.map_eq_some_iff.1 taken with ⟨after, -, same⟩
    cases same
    simp only [List.mem_cons, List.not_mem_nil, or_false] at member
    rcases member with rfl | rfl | rfl | rfl | rfl | rfl <;> rfl
  · cases read

/-! ## Whole values -/

/-- What the steps of the reader give with some fuel can be printed. -/
structure ReadsShowable
    (fuel : Nat) :
    Prop where
  value : ∀ room characters value rest,
    readValue (some digitLimit) fuel room characters = .ok (value, rest) →
      value.isShowable = true
  items : ∀ room characters items rest,
    readItems (some digitLimit) fuel room characters = .ok (items, rest) →
      areShowable items = true
  members : ∀ room characters members rest,
    readMembers (some digitLimit) fuel room characters = .ok (members, rest) →
      areMembersShowable members = true

namespace ReadsShowable

variable {fuel room : Nat} {characters rest : List Char}

theorem isShowable_readValue
    (reads : ReadsShowable fuel)
    {value : Json}
    (read : readValue (some digitLimit) (fuel + 1) room characters = .ok (value, rest)) :
    value.isShowable = true := by
  rw [readValue.eq_def] at read
  dsimp only at read
  split at read
  · split at read
    · cases read
      rfl
    · cases read
  · split at read
    · cases read
    · split at read
      · cases read
        rfl
      · split at read
        · next values afterArray itemsRead =>
          cases read
          exact reads.items _ _ _ _ itemsRead
        · cases read
  · split at read
    · cases read
    · split at read
      · cases read
        rfl
      · split at read
        · next entries afterObject membersRead =>
          cases read
          exact isShowable_ofMembers (reads.members _ _ _ _ membersRead)
        · cases read
  · split at read
    · exact isShowable_of_readWord read
    · exact isShowable_of_readNumber read
  · split at read
    · exact isShowable_of_readNumber read
    · exact isShowable_of_readWord read
  · cases read

theorem areShowable_readItems
    (reads : ReadsShowable fuel)
    {items : List Json}
    (read : readItems (some digitLimit) (fuel + 1) room characters = .ok (items, rest)) :
    areShowable items = true := by
  rw [readItems] at read
  split at read
  · cases read
  · next value afterValue valueRead =>
    have first := reads.value _ _ _ _ valueRead
    split at read
    · cases read
      simp [areShowable, first]
    · split at read
      · next values afterArray itemsRead =>
        cases read
        simp [areShowable, first, reads.items _ _ _ _ itemsRead]
      · cases read
    · cases read

theorem areMembersShowable_readMembers
    (reads : ReadsShowable fuel)
    {members : List (String × Json)}
    (read : readMembers (some digitLimit) (fuel + 1) room characters = .ok (members, rest)) :
    areMembersShowable members = true := by
  rw [readMembers.eq_def] at read
  dsimp only at read
  split at read
  · split at read
    · cases read
    · split at read
      · split at read
        · cases read
        · next valueRead =>
          have first := reads.value _ _ _ _ valueRead
          split at read
          · cases read
            simp [areMembersShowable, first]
          · split at read
            · next entries afterObject membersRead =>
              cases read
              simp [areMembersShowable, first, reads.members _ _ _ _ membersRead]
            · cases read
          · cases read
      · cases read
  · cases read

end ReadsShowable

theorem readsShowable
    (fuel : Nat) :
    ReadsShowable fuel := by
  induction fuel with
  | zero =>
      refine ⟨?_, ?_, ?_⟩ <;>
        · intro room characters value rest read
          cases read
  | succ fuel induction =>
      constructor
      case value =>
        intro room characters value rest read
        exact induction.isShowable_readValue read
      case items =>
        intro room characters items rest read
        exact induction.areShowable_readItems read
      case members =>
        intro room characters members rest read
        exact induction.areMembersShowable_readMembers read

/-- Every value in a body can be printed. -/
theorem isShowable_of_parseBody
    {body : String}
    {value : Json}
    (read : parseBody body = .ok value) :
    value.isShowable = true := by
  unfold parseBody parseWithin at read
  dsimp only at read
  split at read
  · cases read
  · rename_i held rest valueRead
    split at read
    · cases read
      exact (readsShowable _).value _ _ _ _ valueRead
    · cases read

end Holdings.Json
