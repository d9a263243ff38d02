import Holdings.Proofs.Provider.Alike
import Holdings.Registry.Queries

/-!
# How registries grow

A registry starts without providers and gets them as it is asked; what it started
with stays the same.  Each provider stands under the key for which it was built,
whatever was asked since.  So two registries that grew from the same start, however
different their histories, have providers that were built alike for the same keys,
and the same faults for all others.
-/

namespace Holdings

/-- Every chain that is served has a source. -/
def Preferences.AreSourced
    (preferences : Preferences) :
    Prop :=
  ∀ chain services, preferences.lookup chain = some services → services ≠ []

theorem Preferences.areSourced_standard :
    standard.AreSourced := by
  have known : ∀ chain, ∀ services ∈ standard.lookup chain, services ≠ [] := by
    intro chain
    cases chain <;> decide
  exact known

namespace Registry

open Fetch

/-! ## What is found under a key -/

theorem lookup_place
    (key other : String)
    (provider : Provider)
    (held : List (String × Provider)) :
    (place key provider held).lookup other =
      if other = key then some provider else held.lookup other := by
  induction held with
  | nil =>
      by_cases same : other = key
      · simp [place, same]
      · simp [place, same, List.lookup_cons, beq_false_of_ne same]
  | cons entry rest induction =>
      rcases entry with ⟨name, standing⟩
      unfold place
      by_cases replaced : name = key
      · rw [if_pos replaced]
        by_cases same : other = key
        · simp [same]
        · have different : (other == name) = false :=
            beq_false_of_ne fun found => same (found.trans replaced)
          simp [same, List.lookup_cons, beq_false_of_ne same, different]
      · rw [if_neg replaced]
        by_cases found : other = name
        · have different : other ≠ key := fun same => replaced (found.symm.trans same)
          simp [found, replaced]
        · simp [List.lookup_cons, beq_false_of_ne found, induction]

theorem find?_put
    (registry : Registry)
    (key other : String)
    (provider : Provider) :
    (registry.put key provider).find? other =
      if other = key then some provider else registry.find? other :=
  lookup_place key other provider registry.providers

theorem enrol_of_build
    {registry : Registry}
    {key : String}
    {chain : ChainId}
    {services : List Service}
    {provider : Provider}
    (identified : (ChainKey.spelled (.text key)).identify = .ok chain)
    (preferred : registry.preferences.lookup chain = some services)
    (built : registry.build chain services = .ok provider) :
    registry.enrol key =
      .ok (provider, { registry.put key provider with next := registry.next + 1 }) := by
  simp only [enrol, identified, bind, Except.bind, preferred, built]
  rfl

/-! ## Growth -/

/-- A provider was built alike to the one with which a registry would begin under a key. -/
def Stands
    (start : Registry)
    (key : String)
    (provider : Provider) :
    Prop :=
  provider.IsRouted ∧
    ∃ first later, start.enrol key = .ok (first, later) ∧ provider.bare = first.bare

/--
A registry that differs from another one in its providers only, each of which stands under
its key.  Every chain that is served has a source.
-/
structure GrowsFrom
    (start registry : Registry) :
    Prop where
  same : { registry with providers := start.providers, next := start.next } = start
  preferences : ∀ chain services,
    start.preferences.lookup chain = some services → services ≠ []
  providers : ∀ key provider,
    registry.find? key = some provider → start.Stands key provider

/-- What a registry of the usual preferences starts with. -/
theorem growsFrom_make
    (settings : Settings)
    (convertUnits : Bool)
    (transport : Transport) :
    (make settings convertUnits transport .standard).GrowsFrom
      (make settings convertUnits transport .standard) := by
  constructor
  · rfl
  · exact Preferences.areSourced_standard
  · intro key provider found
    cases found

namespace GrowsFrom

variable {start registry : Registry}

theorem samePreferences
    (grows : start.GrowsFrom registry) :
    start.preferences = registry.preferences := by
  rw [← grows.same]

theorem put
    (grows : start.GrowsFrom registry)
    {key : String}
    {provider : Provider}
    (stands : start.Stands key provider) :
    start.GrowsFrom (registry.put key provider) := by
  refine ⟨grows.same, grows.preferences, ?_⟩
  intro other held found
  rw [find?_put] at found
  by_cases same : other = key
  · rw [if_pos same] at found
    cases found
    rw [same]
    exact stands
  · rw [if_neg same] at found
    exact grows.providers other held found

theorem withNext
    (grows : start.GrowsFrom registry)
    (next : Nat) :
    start.GrowsFrom { registry with next := next } :=
  ⟨grows.same, grows.preferences, grows.providers⟩

/-- What a registry builds for a chain depends on its start alone. -/
theorem build
    (grows : start.GrowsFrom registry)
    {chain : ChainId}
    {services : List Service}
    (preferred : start.preferences.lookup chain = some services) :
    ∃ provider first,
      registry.build chain services = .ok provider ∧
        start.build chain services = .ok first ∧ provider.bare = first.bare := by
  cases services with
  | nil =>
      exact absurd rfl (grows.preferences chain [] preferred)
  | cons service rest =>
      rw [← grows.same]
      exact ⟨_, _, rfl, rfl, rfl⟩

/-- A chain that is asked for the first time gets a provider, unless it is not served. -/
theorem enrol
    (grows : start.GrowsFrom registry)
    (key : String) :
    (∃ fault,
        registry.enrol key = .error fault ∧ start.enrol key = .error fault ∧
          fault.kind = .unsupportedChain) ∨
      ∃ provider later,
        registry.enrol key = .ok (provider, later) ∧ start.Stands key provider ∧
          start.GrowsFrom later := by
  have named : (ChainKey.spelled (.text key)).name = .ok (Text.lowercase (Text.trim key)) := rfl
  cases meant : ChainId.ofName? (Text.lowercase (Text.trim key)) with
  | none =>
      left
      refine ⟨.noImplementation (ChainKey.spelled (.text key)).shown, ?_, ?_, rfl⟩
      · simp only [Registry.enrol, ChainKey.identify, named, meant, bind, Except.bind]
        rfl
      · simp only [Registry.enrol, ChainKey.identify, named, meant, bind, Except.bind]
        rfl
  | some chain =>
      have identified : (ChainKey.spelled (.text key)).identify = .ok chain := by
        simp only [ChainKey.identify, named, meant, bind, Except.bind]
        rfl
      cases preferred : start.preferences.lookup chain with
      | none =>
          left
          refine ⟨.noRoute key, ?_, ?_, rfl⟩
          · rw [grows.samePreferences] at preferred
            simp only [Registry.enrol, identified, bind, Except.bind, preferred]
            rfl
          · simp only [Registry.enrol, identified, bind, Except.bind, preferred]
            rfl
      | some services =>
          right
          rcases grows.build preferred with ⟨provider, first, built, begun, builtAlike⟩
          have stands : start.Stands key provider :=
            ⟨Provider.isRouted_build built, first, _, enrol_of_build identified preferred begun,
              builtAlike⟩
          rw [grows.samePreferences] at preferred
          exact ⟨provider, _, enrol_of_build identified preferred built, stands,
            (grows.put stands).withNext _⟩

/-- A key that can be printed leads to a provider, unless its chain is not served. -/
theorem resolve
    (grows : start.GrowsFrom registry)
    {key : ChainKey}
    {name : String}
    (named : key.name = .ok name) :
    (∃ fault,
        registry.resolve key = .error fault ∧ start.enrol name = .error fault ∧
          fault.kind = .unsupportedChain) ∨
      ∃ provider later,
        registry.resolve key = .ok (provider, later) ∧ start.Stands name provider ∧
          start.GrowsFrom later := by
  rw [Registry.resolve, named]
  cases found : registry.find? name with
  | some provider =>
      right
      refine ⟨provider, registry, ?_, grows.providers name provider found, grows⟩
      simp only [bind, Except.bind, found]
      rfl
  | none =>
      simp only [bind, Except.bind, found]
      exact grows.enrol name

end GrowsFrom

/-! ## Registries with the same start -/

/-- Two registries that grew from the same start. -/
structure Alike
    (start left right : Registry) :
    Prop where
  leftGrown : start.GrowsFrom left
  rightGrown : start.GrowsFrom right

/-- Providers that stand under one key were built alike. -/
theorem Stands.alike
    {start : Registry}
    {key : String}
    {left right : Provider}
    (leftStands : start.Stands key left)
    (rightStands : start.Stands key right) :
    left.Alike right := by
  rcases leftStands with ⟨leftRouted, first, later, begun, leftBuilt⟩
  rcases rightStands with ⟨rightRouted, other, rest, otherBegun, rightBuilt⟩
  rw [otherBegun] at begun
  cases begun
  exact ⟨leftRouted, rightRouted, leftBuilt.trans rightBuilt.symm⟩

namespace Alike

variable {start left right : Registry}

/-- Either both registries do not serve the chain of a key, or both find a provider for it. -/
theorem resolve
    (alike : start.Alike left right)
    {key : ChainKey}
    {name : String}
    (named : key.name = .ok name) :
    (∃ fault,
        left.resolve key = .error fault ∧ right.resolve key = .error fault ∧
          fault.kind = .unsupportedChain) ∨
      ∃ leftProvider leftLater rightProvider rightLater,
        left.resolve key = .ok (leftProvider, leftLater) ∧
          right.resolve key = .ok (rightProvider, rightLater) ∧
            leftProvider.Alike rightProvider ∧ start.Alike leftLater rightLater := by
  rcases alike.leftGrown.resolve named with
    ⟨fault, refused, begun, kind⟩ | ⟨provider, later, resolved, stands, grown⟩
  · rcases alike.rightGrown.resolve named with
      ⟨other, otherRefused, otherBegun, -⟩ | ⟨other, rest, -, ⟨-, first, next, otherBegun, -⟩, -⟩
    · rw [otherBegun] at begun
      cases begun
      exact Or.inl ⟨fault, refused, otherRefused, kind⟩
    · rw [otherBegun] at begun
      cases begun
  · rcases alike.rightGrown.resolve named with
      ⟨other, -, otherBegun, -⟩ | ⟨other, rest, found, otherStands, otherGrown⟩
    · rcases stands with ⟨-, first, next, begun, -⟩
      rw [otherBegun] at begun
      cases begun
    · exact Or.inr ⟨provider, later, other, rest, resolved, found, stands.alike otherStands,
        grown, otherGrown⟩

theorem isSupported
    (alike : start.Alike left right)
    (chain : ChainId) :
    ∃ answer leftLater rightLater,
      left.isSupported (.member chain) = .ok (answer, leftLater) ∧
        right.isSupported (.member chain) = .ok (answer, rightLater) ∧
          start.Alike leftLater rightLater := by
  have named : (ChainKey.member chain).name = .ok chain.name := rfl
  rcases alike.resolve named with
    ⟨fault, leftRefused, rightRefused, kind⟩ |
      ⟨provider, leftLater, other, rightLater, leftFound, rightFound, built, still⟩
  · refine ⟨false, left, right, ?_, ?_, alike⟩
    · simp only [Registry.isSupported, leftRefused, kind, if_true]
    · simp only [Registry.isSupported, rightRefused, kind, if_true]
  · refine ⟨provider.isSupported, leftLater, rightLater, ?_, ?_, still⟩
    · simp only [Registry.isSupported, leftFound]
    · simp only [Registry.isSupported, rightFound, built.isSupported]

/-- The list of chains never comes to a fault, and tells the same of both registries. -/
theorem summarize
    (alike : start.Alike left right)
    (chains : List Chain) :
    ∃ summaries leftLater rightLater,
      Registry.summarize chains left = (.ok summaries, leftLater) ∧
        Registry.summarize chains right = (.ok summaries, rightLater) ∧
          start.Alike leftLater rightLater := by
  induction chains generalizing left right with
  | nil =>
      exact ⟨[], left, right, rfl, rfl, alike⟩
  | cons chain rest induction =>
      rcases alike.isSupported chain.id with
        ⟨answer, leftBetween, rightBetween, leftSupported, rightSupported, between⟩
      rcases induction between with
        ⟨summaries, leftLater, rightLater, leftListed, rightListed, still⟩
      refine ⟨⟨chain, answer⟩ :: summaries, leftLater, rightLater, ?_, ?_, still⟩
      · simp only [Registry.summarize, leftSupported, leftListed]
        rfl
      · simp only [Registry.summarize, rightSupported, rightListed]
        rfl

theorem listChains
    (alike : start.Alike left right) :
    ∃ summaries leftLater rightLater,
      left.listChains = (.ok summaries, leftLater) ∧
        right.listChains = (.ok summaries, rightLater) ∧ start.Alike leftLater rightLater := by
  unfold Registry.listChains
  rw [← alike.leftGrown.samePreferences, ← alike.rightGrown.samePreferences]
  exact alike.summarize _

end Alike

end Registry

end Holdings
