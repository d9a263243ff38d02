import Holdings.Proofs.Registry.Growth
import Holdings.Proofs.Text.Lowercase

/-!
# What requests change in a registry

A registry can be asked for a provider, told one, asked whether a chain is served
and what is known about it, and asked for the list of chains.  All that this does to
its providers is to write one under a key: one that was built for a chain whose name
was not a key yet, or one that was put in by hand.  So the registry after a request is
what such changes make of the registry before it.
-/

namespace Holdings

/-! ## Keys -/

theorem ChainId.ofName?_eq_some
    {name : String}
    {chain : ChainId} :
    ofName? name = some chain ↔ chain.name = name := by
  constructor
  · intro found
    have same := List.find?_some found
    simpa using same
  · rintro rfl
    exact ofName?_name chain

/-- A chain stands under its name as it is. -/
theorem ChainId.lowercase_trim_name
    (chain : ChainId) :
    Text.lowercase (Text.trim chain.name) = chain.name := by
  cases chain <;> decide

namespace ChainKey

/-- Reading a key again changes nothing. -/
theorem lowercase_trim_of_name
    {key : ChainKey}
    {name : String}
    (named : key.name = .ok name) :
    Text.lowercase (Text.trim name) = name := by
  cases key with
  | member chain =>
      have same : chain.name = name := Except.ok.inj named
      rw [← same]
      exact chain.lowercase_trim_name
  | spelled given =>
      rw [ChainKey.name] at named
      split at named
      · have same := Except.ok.inj named
        rw [← same, Text.trim_lowercase_trim, Text.lowercase_lowercase]
      · cases named

/-- A key that cannot be printed is not refused as one of a chain that is not served. -/
theorem kind_of_unnamed
    {key : ChainKey}
    {fault : Fault}
    (unnamed : key.name = .error fault) :
    fault.kind ≠ .unsupportedChain := by
  cases key with
  | member chain =>
      cases unnamed
  | spelled given =>
      rw [ChainKey.name] at unnamed
      split at unnamed
      · cases unnamed
      · cases unnamed
        decide

/-- The chain that is meant by the name under which a key is known is the one of this name. -/
theorem identify_of_name
    {key : ChainKey}
    {name : String}
    (named : key.name = .ok name) :
    (spelled (.text name)).identify =
      match ChainId.ofName? name with
      | some chain => .ok chain
      | none => .error (.noImplementation (spelled (.text name)).shown) := by
  have again : (spelled (.text name)).name = .ok (Text.lowercase (Text.trim name)) := rfl
  rw [lowercase_trim_of_name named] at again
  rw [identify, again, Outcome.ok_bind]
  cases ChainId.ofName? name with
  | none =>
      rfl
  | some chain =>
      rfl

end ChainKey

namespace Registry

/-! ## Requests -/

/-- What can be asked of a registry. -/
inductive Request where
  | resolve (key : ChainKey)
  | register (key : ChainKey) (provider : Provider)
  | isSupported (key : ChainKey)
  | listChains
  | chainConfig (key : ChainKey)
deriving Inhabited

/-- What a request is answered with. -/
inductive Response where
  | provider (outcome : Except Fault Provider)
  | registered (outcome : Except Fault Unit)
  | supported (outcome : Except Fault Bool)
  | chains (outcome : Except Fault (List ChainSummary))
  | config (outcome : Except Fault ChainConfig)

/-- What a step came to, and the registry afterwards; one that failed leaves it as it was. -/
def settle
    {α : Type}
    (registry : Registry) :
    Except Fault (α × Registry) → Except Fault α × Registry
  | .ok (value, later) => (.ok value, later)
  | .error fault => (.error fault, registry)

/-- Answers a request. -/
def handle
    (registry : Registry) :
    Request → Response × Registry
  | .resolve key =>
    let (outcome, later) := registry.settle (registry.resolve key)
    (.provider outcome, later)
  | .register key provider =>
    let (outcome, later) := registry.settle ((registry.register key provider).map ((), ·))
    (.registered outcome, later)
  | .isSupported key =>
    let (outcome, later) := registry.settle (registry.isSupported key)
    (.supported outcome, later)
  | .listChains =>
    let (outcome, later) := registry.listChains
    (.chains outcome, later)
  | .chainConfig key =>
    let (outcome, later) := registry.settle (registry.chainConfig key)
    (.config outcome, later)

/-- The answer to a request. -/
def answer
    (registry : Registry)
    (request : Request) :
    Response :=
  (registry.handle request).1

/-- The registry after some requests. -/
def after
    (registry : Registry)
    (requests : List Request) :
    Registry :=
  requests.foldl (fun current request => (current.handle request).2) registry

/-- Whether a request puts in a provider under a name by hand. -/
def Request.Registers
    (name : String) :
    Request → Prop
  | .register key _ => key.name = .ok name
  | _ => False

/-! ## Changes -/

/-- What can happen to the providers of a registry. -/
inductive Change where
  /-- A provider was built for a chain, and is kept under a key. -/
  | built (chain : ChainId) (key : String) (provider : Provider)
  /-- A provider was put in by hand. -/
  | registered (key : String) (provider : Provider)
deriving Inhabited

namespace Change

/-- The key under which a provider is written. -/
def key : Change → String
  | built _ key _ => key
  | registered key _ => key

/-- The provider that is written. -/
def provider : Change → Provider
  | built _ _ provider => provider
  | registered _ provider => provider

/-- The chain for which a provider was built, if one was. -/
def chain? : Change → Option ChainId
  | built chain _ _ => some chain
  | registered _ _ => none

end Change

/-- The registry after a change; every provider that is written takes a number. -/
def enact
    (registry : Registry)
    (change : Change) :
    Registry :=
  { registry.put change.key change.provider with next := registry.next + 1 }

/-- A provider is built under the name of a chain that is served and is not held yet. -/
def Change.Fits
    (registry : Registry) :
    Change → Prop
  | .built chain key provider =>
    key = chain.name ∧ registry.find? key = none ∧
      ∃ services, registry.preferences.lookup chain = some services ∧
        registry.build chain services = .ok provider
  | .registered _ _ => True

/-- A registry becomes another one by changes, each of which fits where it is made. -/
inductive Becomes : Registry → List Change → Registry → Prop where
  | same
      (registry : Registry) :
      Becomes registry [] registry
  | change
      {registry later : Registry}
      {change : Change}
      {rest : List Change}
      (fits : change.Fits registry)
      (others : Becomes (registry.enact change) rest later) :
      Becomes registry (change :: rest) later

/-- The change that is made when a key is resolved, if there is one. -/
def resolveChange?
    (registry : Registry)
    (key : ChainKey) :
    Option Change := do
  let name ← key.name.toOption
  match registry.find? name with
  | some _ => none
  | none =>
    let chain ← (ChainKey.spelled (.text name)).identify.toOption
    let services ← registry.preferences.lookup chain
    let provider ← (registry.build chain services).toOption
    return .built chain name provider

/-- The changes that are made when keys are resolved one after the other. -/
def resolveChanges
    (registry : Registry) :
    List ChainKey → List Change
  | [] => []
  | key :: rest =>
    (registry.resolveChange? key).toList ++
      resolveChanges (registry.settle (registry.resolve key)).2 rest

/-- The keys that are resolved for a request. -/
def Request.resolved
    (preferences : Preferences) :
    Request → List ChainKey
  | .resolve key => [key]
  | .register _ _ => []
  | .isSupported key => [key]
  | .listChains =>
    (Chain.table.filter fun chain => (preferences.lookup chain.id).isSome).map (.member ·.id)
  | .chainConfig key => [key]

/-- The changes that a request makes. -/
def requestChanges
    (registry : Registry) :
    Request → List Change
  | .register key provider =>
    (key.name.toOption.map fun name => Change.registered name provider).toList
  | request => registry.resolveChanges (request.resolved registry.preferences)

/-- The changes that some requests make, in order. -/
def changes
    (registry : Registry) :
    List Request → List Change
  | [] => []
  | request :: rest =>
    registry.requestChanges request ++ changes (registry.handle request).2 rest

/-! ## What resolving a key comes to -/

/-- The ways in which resolving a key ends, with the change that it makes. -/
inductive Resolution
    (registry : Registry)
    (key : ChainKey) :
    Except Fault (Provider × Registry) → Option Change → Prop where
  | unnamed
      {fault : Fault}
      (unnamed : key.name = .error fault)
      (kind : fault.kind ≠ .unsupportedChain) :
      Resolution registry key (.error fault) none
  | held
      {name : String}
      {provider : Provider}
      (named : key.name = .ok name)
      (found : registry.find? name = some provider) :
      Resolution registry key (.ok (provider, registry)) none
  | refused
      {name : String}
      {fault : Fault}
      (named : key.name = .ok name)
      (missing : registry.find? name = none)
      (unrouted : ∀ chain : ChainId,
        chain.name = name → registry.preferences.lookup chain = none)
      (kind : fault.kind = .unsupportedChain) :
      Resolution registry key (.error fault) none
  | built
      {chain : ChainId}
      {services : List Service}
      {provider : Provider}
      (named : key.name = .ok chain.name)
      (missing : registry.find? chain.name = none)
      (routed : registry.preferences.lookup chain = some services)
      (built : registry.build chain services = .ok provider) :
      Resolution registry key
        (.ok (provider, { registry.put chain.name provider with next := registry.next + 1 }))
        (some (.built chain chain.name provider))

/-- A chain with a source can be built. -/
theorem exists_build
    (registry : Registry)
    (chain : ChainId)
    {services : List Service}
    (sourced : services ≠ []) :
    ∃ provider, registry.build chain services = .ok provider := by
  cases services with
  | nil =>
      exact absurd rfl sourced
  | cons first rest =>
      exact ⟨_, rfl⟩

/-- A key that is not held is that of a chain which is built, or of none that is served. -/
theorem resolution_of_missing
    {registry : Registry}
    (sourced : registry.preferences.AreSourced)
    {key : ChainKey}
    {name : String}
    (named : key.name = .ok name)
    (missing : registry.find? name = none) :
    registry.Resolution key (registry.enrol name) (registry.resolveChange? key) := by
  -- The name is read as a key once more, which leaves it as it is.
  have identified := ChainKey.identify_of_name named
  cases meant : ChainId.ofName? name with
  | none =>
      rw [meant] at identified
      have unchanged : registry.resolveChange? key = none := by
        simp only [resolveChange?, named, Except.toOption, Option.bind_eq_bind,
          Option.bind_some, missing, identified, Option.bind_none]
      rw [enrol, identified, unchanged]
      refine .refused named missing ?_ rfl
      intro chain called
      rw [ChainId.ofName?_eq_some.2 called] at meant
      cases meant
  | some chain =>
      rw [meant] at identified
      have called : chain.name = name := ChainId.ofName?_eq_some.1 meant
      cases routed : registry.preferences.lookup chain with
      | none =>
          have refused : registry.enrol name = .error (.noRoute name) := by
            simp only [enrol, identified, Outcome.ok_bind, routed]
            rfl
          have unchanged : registry.resolveChange? key = none := by
            simp only [resolveChange?, named, Except.toOption, Option.bind_eq_bind,
              Option.bind_some, missing, identified, routed, Option.bind_none]
          rw [refused, unchanged]
          refine .refused named missing ?_ rfl
          intro other otherCalled
          rw [← otherCalled, ChainId.ofName?_name] at meant
          cases meant
          exact routed
      | some services =>
          rcases exists_build registry chain (sourced chain services routed) with
            ⟨provider, built⟩
          have change : registry.resolveChange? key = some (.built chain name provider) := by
            simp only [resolveChange?, named, Except.toOption, Option.bind_eq_bind,
              Option.bind_some, missing, identified, routed, built]
            rfl
          rw [change, enrol_of_build identified routed built]
          subst called
          exact .built named missing routed built

theorem resolution
    {registry : Registry}
    (sourced : registry.preferences.AreSourced)
    (key : ChainKey) :
    registry.Resolution key (registry.resolve key) (registry.resolveChange? key) := by
  cases named : key.name with
  | error fault =>
      have unresolved : registry.resolve key = .error fault := by
        rw [Registry.resolve, named]
        rfl
      have unchanged : registry.resolveChange? key = none := by
        rw [resolveChange?, named]
        rfl
      rw [unresolved, unchanged]
      exact .unnamed named (ChainKey.kind_of_unnamed named)
  | ok name =>
      cases found : registry.find? name with
      | some provider =>
          have resolved : registry.resolve key = .ok (provider, registry) := by
            simp only [Registry.resolve, named, Outcome.ok_bind, found]
            rfl
          have unchanged : registry.resolveChange? key = none := by
            simp only [resolveChange?, named, Except.toOption, Option.bind_eq_bind,
              Option.bind_some, found]
          rw [resolved, unchanged]
          exact .held named found
      | none =>
          have resolved : registry.resolve key = registry.enrol name := by
            simp only [Registry.resolve, named, Outcome.ok_bind, found]
          rw [resolved]
          exact resolution_of_missing sourced named found

/-! ## What requests make of a registry -/

@[simp]
theorem preferences_enact
    (registry : Registry)
    (change : Change) :
    (registry.enact change).preferences = registry.preferences :=
  rfl

namespace Becomes

variable {registry between later : Registry}

theorem preferences
    {changes : List Change}
    (becomes : Becomes registry changes later) :
    later.preferences = registry.preferences := by
  induction becomes with
  | same registry =>
      rfl
  | change fits others induction =>
      exact induction

theorem append
    {first second : List Change}
    (here : Becomes registry first between)
    (rest : Becomes between second later) :
    Becomes registry (first ++ second) later := by
  induction here with
  | same registry =>
      exact rest
  | change fits others induction =>
      exact .change fits (induction rest)

theorem one
    {change : Change}
    (fits : change.Fits registry) :
    Becomes registry [change] (registry.enact change) :=
  .change fits (.same _)

/-- The changes say all that becomes of a registry. -/
theorem eq_foldl
    {changes : List Change}
    (becomes : Becomes registry changes later) :
    later = changes.foldl enact registry := by
  induction becomes with
  | same registry =>
      rfl
  | change fits others induction =>
      exact induction

end Becomes

theorem becomes_resolve
    {registry : Registry}
    (sourced : registry.preferences.AreSourced)
    (key : ChainKey) :
    Becomes registry (registry.resolveChange? key).toList
      (registry.settle (registry.resolve key)).2 := by
  have resolution := resolution sourced key
  generalize registry.resolve key = outcome at resolution ⊢
  generalize registry.resolveChange? key = change? at resolution ⊢
  cases resolution with
  | unnamed unnamed kind =>
      exact .same registry
  | held named found =>
      exact .same registry
  | refused named missing unrouted kind =>
      exact .same registry
  | built named missing routed built =>
      exact .one ⟨rfl, missing, _, routed, built⟩

/-- Asking whether a chain is served does to a registry what resolving its key does. -/
theorem settle_isSupported
    (registry : Registry)
    (key : ChainKey) :
    (registry.settle (registry.isSupported key)).2 =
      (registry.settle (registry.resolve key)).2 := by
  rw [Registry.isSupported]
  cases registry.resolve key with
  | ok resolved =>
      rfl
  | error fault =>
      dsimp only
      split <;> rfl

/-- So does asking what is known about the chain. -/
theorem settle_chainConfig
    (registry : Registry)
    (key : ChainKey) :
    (registry.settle (registry.chainConfig key)).2 =
      (registry.settle (registry.resolve key)).2 := by
  rw [Registry.chainConfig]
  cases registry.resolve key <;> rfl

/-- A member of the table is served or it is not; nothing else comes of asking. -/
theorem exists_isSupported_member
    {registry : Registry}
    (sourced : registry.preferences.AreSourced)
    (chain : ChainId) :
    ∃ answer later, registry.isSupported (.member chain) = .ok (answer, later) := by
  have resolution := resolution sourced (.member chain)
  rw [Registry.isSupported]
  generalize registry.resolve (.member chain) = outcome at resolution ⊢
  generalize registry.resolveChange? (.member chain) = change? at resolution
  cases resolution with
  | unnamed unnamed kind =>
      cases unnamed
  | held named found =>
      exact ⟨_, _, rfl⟩
  | refused named missing unrouted kind =>
      exact ⟨false, registry, if_pos kind⟩
  | built named missing routed built =>
      exact ⟨_, _, rfl⟩

/-- A list of chains is made by resolving one after the other. -/
theorem becomes_summarize
    {registry : Registry}
    (sourced : registry.preferences.AreSourced)
    (chains : List Chain) :
    Becomes registry (registry.resolveChanges (chains.map (.member ·.id)))
      (summarize chains registry).2 := by
  induction chains generalizing registry with
  | nil =>
      exact .same registry
  | cons chain rest induction =>
      have first := becomes_resolve sourced (.member chain.id)
      rw [List.map_cons, resolveChanges]
      rcases exists_isSupported_member sourced chain.id with ⟨answer, later, supported⟩
      have became : (registry.settle (registry.resolve (.member chain.id))).2 = later := by
        rw [← settle_isSupported, supported]
        rfl
      rw [became] at first ⊢
      have listed : (summarize (chain :: rest) registry).2 = (summarize rest later).2 := by
        rw [summarize, supported]
      rw [listed]
      refine first.append (induction ?_)
      rw [first.preferences]
      exact sourced

/-- A request changes a registry as its changes say. -/
theorem becomes_handle
    {registry : Registry}
    (sourced : registry.preferences.AreSourced)
    (request : Request) :
    Becomes registry (registry.requestChanges request) (registry.handle request).2 := by
  have one (key : ChainKey) :
      Becomes registry (registry.resolveChanges [key])
        (registry.settle (registry.resolve key)).2 := by
    rw [resolveChanges, resolveChanges, List.append_nil]
    exact becomes_resolve sourced key
  cases request with
  | resolve key =>
      exact one key
  | register key provider =>
      rw [requestChanges, handle, register]
      cases key.name with
      | error fault =>
          exact .same registry
      | ok name =>
          exact .one trivial
  | isSupported key =>
      rw [handle, settle_isSupported]
      exact one key
  | listChains =>
      exact becomes_summarize sourced _
  | chainConfig key =>
      rw [handle, settle_chainConfig]
      exact one key

/-- So do requests, one after the other. -/
theorem becomes_after
    {registry : Registry}
    (sourced : registry.preferences.AreSourced)
    (requests : List Request) :
    Becomes registry (registry.changes requests) (registry.after requests) := by
  induction requests generalizing registry with
  | nil =>
      exact .same registry
  | cons request rest induction =>
      have first := becomes_handle sourced request
      refine first.append (induction ?_)
      rw [first.preferences]
      exact sourced

end Registry

end Holdings
