import Holdings.Proofs.Provider.Arises

/-!
# Providers that were built alike

Of a provider, questions change nothing but the backends that it keeps, and its
number only tells it from others.  What is left when both are taken away is how
it was built.  Providers that were built alike find the same backends, apart
from what a backend has found, and meet the same faults on the way to them.
-/

namespace Holdings.Provider

/-- A provider as it was built, whatever its number. -/
def bare
    (provider : Provider) :
    Provider :=
  { provider with number := 0, backends := ⟨none, none⟩ }

/-! ## What steps leave as it was built -/

@[simp]
theorem bare_keep
    (provider : Provider)
    (tier : Tier)
    (backend : Backend) :
    (provider.keep tier backend).bare = provider.bare :=
  rfl

theorem bare_backendOf
    {provider built : Provider}
    {tier : Tier}
    {backend : Backend}
    (found : provider.backendOf tier = .ok (backend, built)) :
    built.bare = provider.bare := by
  cases kept : provider.backends.get tier with
  | some standing =>
      rw [backendOf, kept] at found
      cases found
      rfl
  | none =>
      rw [backendOf_of_none kept] at found
      rcases Outcome.bind_eq_ok.1 found with ⟨opened, -, same⟩
      cases same
      rfl

theorem Becomes.bare_eq
    {provider later : Provider}
    (becomes : provider.Becomes later) :
    later.bare = provider.bare := by
  cases becomes with
  | unchanged =>
      rfl
  | built found =>
      exact bare_backendOf found
  | kept found same =>
      rw [bare_keep]
      exact bare_backendOf found

/-! ## What is the same -/

theorem fields_of_bare
    {provider later : Provider}
    (alike : later.bare = provider.bare) :
    later.chain = provider.chain ∧ later.rendering = provider.rendering ∧
      later.transport = provider.transport :=
  ⟨congrArg (fun bare => bare.chain) alike, congrArg (fun bare => bare.rendering) alike,
    congrArg (fun bare => bare.transport) alike⟩

/-- Apart from what it has found, a backend is the one that the route of the tier opens. -/
theorem IsRouted.map_backendOf
    {provider : Provider}
    (routed : provider.IsRouted)
    (tier : Tier) :
    (provider.backendOf tier).map (fun found => found.1.withoutCache) = provider.opens tier := by
  cases kept : provider.backends.get tier with
  | some backend =>
      rw [Provider.backendOf, kept]
      exact (routes_iff.1 (routed.backends tier backend kept)).symm
  | none =>
      rw [backendOf_of_none kept]
      cases opened : provider.opens tier with
      | error fault =>
          rfl
      | ok backend =>
          exact congrArg Except.ok (routed.withoutCache_of_opens opened)

/-- Two routed providers that were built alike. -/
structure Alike
    (left right : Provider) :
    Prop where
  leftRouted : left.IsRouted
  rightRouted : right.IsRouted
  sameBuild : left.bare = right.bare

namespace Alike

variable {left right : Provider}

theorem isSupported
    (alike : left.Alike right) :
    left.isSupported = right.isSupported := by
  show left.bare.isSupported = right.bare.isSupported
  rw [alike.sameBuild]

theorem baseUrl
    (alike : left.Alike right)
    (tier : Tier) :
    left.baseUrl tier = right.baseUrl tier := by
  show left.bare.baseUrl tier = right.bare.baseUrl tier
  rw [alike.sameBuild]

/-- Either both providers lack a source of the tier, or both find the same backend. -/
theorem backendOf
    (alike : left.Alike right)
    (tier : Tier) :
    (∃ fault,
        left.backendOf tier = .error fault ∧ right.backendOf tier = .error fault ∧
          fault.kind = .configuration) ∨
      ∃ leftBackend leftBuilt rightBackend rightBuilt,
        left.backendOf tier = .ok (leftBackend, leftBuilt) ∧
          right.backendOf tier = .ok (rightBackend, rightBuilt) ∧
            leftBackend.withoutCache = rightBackend.withoutCache := by
  have opened : left.opens tier = right.opens tier := by
    show left.bare.opens tier = right.bare.opens tier
    rw [alike.sameBuild]
  rw [← alike.leftRouted.map_backendOf, ← alike.rightRouted.map_backendOf] at opened
  cases leftFound : left.backendOf tier with
  | error fault =>
      rw [leftFound] at opened
      cases rightFound : right.backendOf tier with
      | error other =>
          rw [rightFound] at opened
          cases opened
          exact Or.inl ⟨fault, rfl, rfl, alike.leftRouted.kind_of_backendOf leftFound⟩
      | ok found =>
          rw [rightFound] at opened
          cases opened
  | ok leftHeld =>
      rw [leftFound] at opened
      cases rightFound : right.backendOf tier with
      | error other =>
          rw [rightFound] at opened
          cases opened
      | ok rightHeld =>
          rw [rightFound] at opened
          exact Or.inr ⟨leftHeld.1, leftHeld.2, rightHeld.1, rightHeld.2, rfl, rfl,
            Except.ok.inj opened⟩

end Alike

end Holdings.Provider
