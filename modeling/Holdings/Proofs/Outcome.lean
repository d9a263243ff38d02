import Holdings.Fault
import Mathlib.Data.List.Forall2

/-!
# Outcomes of steps that may fail

A value that comes out of several steps comes out of each of them.  What holds
of all values of a step holds of a whole list that goes through it.
-/

namespace Holdings.Outcome

variable {α β : Type}

theorem ok_bind
    {ε : Type}
    (value : α)
    (next : α → Except ε β) :
    (Except.ok value >>= next) = next value :=
  rfl

theorem bind_eq_ok
    {ε : Type}
    {first : Except ε α}
    {next : α → Except ε β}
    {result : β} :
    (first >>= next) = .ok result ↔
      ∃ value, first = .ok value ∧ next value = .ok result := by
  cases first with
  | error fault =>
      simp [bind, Except.bind]
  | ok value =>
      simp [bind, Except.bind]

theorem map_eq_ok
    {ε : Type}
    {first : Except ε α}
    {next : α → β}
    {result : β} :
    first.map next = .ok result ↔ ∃ value, first = .ok value ∧ next value = result := by
  cases first with
  | error fault =>
      simp [Except.map]
  | ok value =>
      simp [Except.map]

theorem toOption_bind
    {ε : Type}
    (first : Except ε α)
    (next : α → Except ε β) :
    (first >>= next).toOption = first.toOption.bind fun value => (next value).toOption := by
  cases first <;> rfl

/-- A step that always goes on has the faults of the step before. -/
theorem eq_error_of_bind_pure
    {ε : Type}
    {first : Except ε α}
    {next : α → β}
    {fault : ε}
    (refused : (first >>= fun value => pure (next value)) = .error fault) :
    first = .error fault := by
  cases first with
  | error cause =>
      cases refused
      rfl
  | ok value =>
      cases refused

/-- What is related to a list item by item is related to some item each. -/
theorem exists_of_mem_right
    {related : α → β → Prop}
    {items : List α}
    {values : List β}
    (all : List.Forall₂ related items values)
    {value : β}
    (member : value ∈ values) :
    ∃ item, related item value := by
  induction all with
  | nil =>
      cases member
  | @cons item first _ _ here _ induction =>
      rcases List.mem_cons.mp member with rfl | later
      · exact ⟨item, here⟩
      · exact induction later

/-- How each value of a step is related to its item, the values of a list that went through are. -/
theorem forall₂_of_mapM
    {step : α → Except Fault β}
    {related : α → β → Prop}
    (each : ∀ item value, step item = .ok value → related item value)
    {items : List α}
    {values : List β}
    (passed : items.mapM step = .ok values) :
    List.Forall₂ related items values := by
  induction items generalizing values with
  | nil =>
      cases passed
      exact .nil
  | cons item rest induction =>
      rw [List.mapM_cons] at passed
      rcases bind_eq_ok.1 passed with ⟨first, firstPassed, later⟩
      rcases bind_eq_ok.1 later with ⟨others, othersPassed, same⟩
      cases same
      exact .cons (each item first firstPassed) (induction othersPassed)

/-- Two lists whose items come item by item to the same come to the same. -/
theorem mapM_eq_mapM
    {γ : Type}
    {step : α → Except Fault γ}
    {other : β → Except Fault γ}
    {items : List α}
    {others : List β}
    (each : List.Forall₂ (fun left right => step left = other right) items others) :
    items.mapM step = others.mapM other := by
  induction each with
  | nil =>
      rfl
  | cons here _ induction =>
      rw [List.mapM_cons, List.mapM_cons, here, induction]

/-- A list comes item by item to what is expected if it comes to that as a whole. -/
theorem mapM_eq_ok_map_iff
    {step : α → Except Fault β}
    {expected : α → β}
    {items : List α} :
    items.mapM step = .ok (items.map expected) ↔
      ∀ item ∈ items, step item = .ok (expected item) := by
  induction items with
  | nil =>
      simp [pure, Except.pure]
  | cons item rest induction =>
      rw [List.mapM_cons, bind_eq_ok, List.forall_mem_cons]
      constructor
      · rintro ⟨first, firstPassed, later⟩
        rcases bind_eq_ok.1 later with ⟨others, othersPassed, same⟩
        cases same
        exact ⟨firstPassed, induction.1 othersPassed⟩
      · rintro ⟨firstPassed, others⟩
        refine ⟨_, firstPassed, ?_⟩
        rw [induction.2 others]
        rfl

/-- What every value of a step satisfies, every item of a list satisfies that went through. -/
theorem forall_of_mapM
    {step : α → Except Fault β}
    {holds : β → Prop}
    (each : ∀ item value, step item = .ok value → holds value)
    {items : List α}
    {values : List β}
    (passed : items.mapM step = .ok values) :
    ∀ value ∈ values, holds value := by
  intro value member
  rcases exists_of_mem_right (forall₂_of_mapM each passed) member with ⟨item, here⟩
  exact here

/-! ## Outcomes with one class of faults -/

/-- A value, or a fault of one class. -/
def FailsOnlyWith
    (kind : FaultClass)
    (outcome : Except Fault α) :
    Prop :=
  ∀ fault, outcome = .error fault → fault.kind = kind

namespace FailsOnlyWith

variable {kind : FaultClass}

theorem ok
    (value : α) :
    FailsOnlyWith kind (.ok value) := by
  intro fault refused
  cases refused

theorem error
    {fault : Fault}
    (same : fault.kind = kind) :
    FailsOnlyWith kind (.error fault : Except Fault α) := by
  intro other refused
  cases refused
  exact same

theorem bind
    {first : Except Fault α}
    {next : α → Except Fault β}
    (here : FailsOnlyWith kind first)
    (rest : ∀ value, first = .ok value → FailsOnlyWith kind (next value)) :
    FailsOnlyWith kind (first >>= next) := by
  cases first with
  | error fault =>
      exact error (here fault rfl)
  | ok value =>
      exact rest value rfl

theorem map
    {outcome : Except Fault α}
    (failsOnly : FailsOnlyWith kind outcome)
    (next : α → β) :
    FailsOnlyWith kind (outcome.map next) := by
  cases outcome with
  | error fault =>
      exact error (failsOnly fault rfl)
  | ok value =>
      exact ok _

end FailsOnlyWith

/-! ## Outcomes without one class of faults -/

/-- A value, or a fault of another class. -/
def Avoids
    (kind : FaultClass)
    (outcome : Except Fault α) :
    Prop :=
  ∀ fault, outcome = .error fault → fault.kind ≠ kind

namespace Avoids

variable {kind : FaultClass}

theorem ok
    (value : α) :
    Avoids kind (.ok value) := by
  intro fault refused
  cases refused

theorem error
    {fault : Fault}
    (other : fault.kind ≠ kind) :
    Avoids kind (.error fault : Except Fault α) := by
  intro cause refused
  cases refused
  exact other

theorem bind
    {first : Except Fault α}
    {next : α → Except Fault β}
    (here : Avoids kind first)
    (rest : ∀ value, Avoids kind (next value)) :
    Avoids kind (first >>= next) := by
  cases first with
  | error fault =>
      exact error (here fault rfl)
  | ok value =>
      exact rest value

end Avoids

/-! ## Outcomes that end alike -/

/-- Two outcomes end with values that are related, or with one and the same fault. -/
inductive EndAlike
    (related : α → β → Prop) :
    Except Fault α → Except Fault β → Prop where
  | ok
      {first : α}
      {second : β}
      (here : related first second) :
      EndAlike related (.ok first) (.ok second)
  | error
      (fault : Fault) :
      EndAlike related (.error fault) (.error fault)

namespace EndAlike

variable {γ δ : Type} {related : α → β → Prop} {later : γ → δ → Prop}

theorem bind
    {first : Except Fault α}
    {second : Except Fault β}
    {next : α → Except Fault γ}
    {other : β → Except Fault δ}
    (here : EndAlike related first second)
    (rest : ∀ left right, related left right → EndAlike later (next left) (other right)) :
    EndAlike later (first >>= next) (second >>= other) := by
  cases here with
  | ok here =>
      exact rest _ _ here
  | error fault =>
      exact .error fault

/-- A step that both have in common leaves the rest to be compared. -/
theorem bind_same
    {first : Except Fault α}
    {next : α → Except Fault γ}
    {other : α → Except Fault δ}
    (rest : ∀ value, first = .ok value → EndAlike later (next value) (other value)) :
    EndAlike later (first >>= next) (first >>= other) := by
  cases first with
  | error fault =>
      exact .error fault
  | ok value =>
      exact rest value rfl

/-- Lists whose items end alike one by one end alike. -/
theorem mapM
    {step : α → Except Fault γ}
    {other : α → Except Fault δ}
    {items : List α}
    (each : ∀ item ∈ items, EndAlike later (step item) (other item)) :
    EndAlike (List.Forall₂ later) (items.mapM step) (items.mapM other) := by
  induction items with
  | nil =>
      exact .ok .nil
  | cons item rest induction =>
      rw [List.mapM_cons, List.mapM_cons]
      apply (each item List.mem_cons_self).bind
      intro first second here
      apply (induction fun next member => each next (List.mem_cons_of_mem item member)).bind
      intro firsts seconds others
      exact .ok (.cons here others)

end EndAlike

end Holdings.Outcome
