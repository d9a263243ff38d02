import Holdings.Json.Access
import Holdings.Proofs.Outcome

/-!
# Values that stand inside others

A value is found by the names of the members that lead to it.  Where a path leads
somewhere, every way of looking for its first member finds the same.
-/

namespace Holdings.Json

/-- The value to which the names of members lead, one inside the other. -/
def path
    (value : Json) :
    List String → Except Fault Json
  | [] => .ok value
  | name :: rest => do
    (← value.member name).path rest

variable {value held found : Json} {name : String}

theorem path_cons_eq_ok
    {rest : List String} :
    value.path (name :: rest) = .ok found ↔
      ∃ held, value.member name = .ok held ∧ held.path rest = .ok found :=
  Outcome.bind_eq_ok

@[simp]
theorem path_singleton
    (value : Json)
    (name : String) :
    value.path [name] = value.member name := by
  cases found : value.member name with
  | error fault =>
      simp [path, found, bind, Except.bind]
  | ok held =>
      simp [path, found, bind, Except.bind]

theorem path_append
    (value : Json)
    (first rest : List String) :
    value.path (first ++ rest) = value.path first >>= fun held => held.path rest := by
  induction first generalizing value with
  | nil =>
      rfl
  | cons name names induction =>
      simp only [List.cons_append, path, bind_assoc, induction]

theorem exists_members_of_member
    (there : value.member name = .ok held) :
    ∃ members, value = .object members ∧ find? members name = some held := by
  cases value with
  | object members =>
      refine ⟨members, rfl, ?_⟩
      cases standing : find? members name with
      | none =>
          simp [member, standing] at there
      | some known =>
          simpa [member, standing] using there
  | _ =>
      cases there

theorem lookupOr_of_member
    (there : value.member name = .ok held)
    (missing : Json) :
    value.lookupOr name missing = .ok held := by
  rcases exists_members_of_member there with ⟨members, rfl, standing⟩
  rw [lookupOr, standing]
  rfl

theorem lookup_of_member
    (there : value.member name = .ok held) :
    value.lookup name = .ok held :=
  lookupOr_of_member there .null

/-- Where a look-up by name does not fail, it finds what is found when failing is no option. -/
theorem getD_of_lookup
    (there : value.lookup name = .ok held) :
    value.getD name = held := by
  cases value with
  | object members =>
      exact Except.ok.inj there
  | _ =>
      cases there

theorem getD_of_member
    (there : value.member name = .ok held) :
    value.getD name = held :=
  getD_of_lookup (lookup_of_member there)

/-- What has a member is no empty value. -/
theorem isPresent_of_member
    (there : value.member name = .ok held) :
    value.isPresent = true := by
  rcases exists_members_of_member there with ⟨members, rfl, standing⟩
  cases members with
  | nil =>
      cases standing
  | cons first rest =>
      rfl

theorem orElse_of_member
    (there : value.member name = .ok held)
    (fallback : Json) :
    value.orElse fallback = value := by
  rw [orElse, if_pos (isPresent_of_member there)]

end Holdings.Json
