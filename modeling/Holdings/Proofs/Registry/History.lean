import Holdings.Proofs.Provider.Arises
import Holdings.Proofs.Registry.Changes
import Mathlib.Data.List.Dedup

/-!
# Histories of registries

Whatever is asked of a registry, and in whichever order, a key leads to the same
provider until another one is put in for it; a provider is built at most once for a
chain, under the name of the chain; and a key that was held once is held from then on,
in the place in which it came.  All of this is read off the changes that the requests
make: each one writes a provider under one key, and one that was built is written under
a key that was not held.
-/

namespace Holdings

namespace Registry

/-! ## Keys that are held -/

theorem find?_eq_none_iff
    {registry : Registry}
    {key : String} :
    registry.find? key = none ↔ key ∉ registry.keys := by
  rw [find?, keys, List.lookup_eq_none_iff, List.mem_map]
  constructor
  · rintro missing ⟨entry, member, same⟩
    simpa [same] using missing entry member
  · intro missing entry member
    simpa using fun same : key = entry.1 => missing ⟨entry, member, same.symm⟩

theorem keys_put
    (registry : Registry)
    (key : String)
    (provider : Provider) :
    (registry.put key provider).keys =
      if key ∈ registry.keys then registry.keys else registry.keys ++ [key] := by
  have placed (held : List (String × Provider)) :
      (place key provider held).map (·.1) =
        if key ∈ held.map (·.1) then held.map (·.1) else held.map (·.1) ++ [key] := by
    induction held with
    | nil =>
        rfl
    | cons entry rest induction =>
        rcases entry with ⟨name, standing⟩
        by_cases same : name = key
        · simp [place, same]
        · have different : key ≠ name := fun found => same found.symm
          simp only [place, if_neg same, List.map_cons, induction, List.mem_cons, different,
            false_or]
          split <;> rfl
  exact placed registry.providers

theorem keys_enact
    (registry : Registry)
    (change : Change) :
    (registry.enact change).keys =
      if change.key ∈ registry.keys then registry.keys else registry.keys ++ [change.key] :=
  registry.keys_put change.key change.provider

theorem find?_enact
    (registry : Registry)
    (change : Change)
    (key : String) :
    (registry.enact change).find? key =
      if key = change.key then some change.provider else registry.find? key :=
  registry.find?_put change.key key change.provider

theorem key_mem_keys_enact
    (registry : Registry)
    (change : Change) :
    change.key ∈ (registry.enact change).keys := by
  rw [keys_enact]
  split
  · assumption
  · exact List.mem_append_right _ (List.mem_singleton_self _)

theorem keys_prefix_enact
    (registry : Registry)
    (change : Change) :
    registry.keys <+: (registry.enact change).keys := by
  rw [keys_enact]
  split
  · exact List.prefix_refl _
  · exact List.prefix_append _ _

theorem nodup_keys_enact
    {registry : Registry}
    (once : registry.keys.Nodup)
    (change : Change) :
    (registry.enact change).keys.Nodup := by
  rw [keys_enact]
  split
  · exact once
  · rename_i fresh
    rw [← List.concat_eq_append]
    exact once.concat fresh

/-- A key is held where it was mentioned first. -/
theorem keys_enact_eq_eraseDups
    {registry : Registry}
    {past : List String}
    (inOrder : registry.keys = past.eraseDups)
    (change : Change) :
    (registry.enact change).keys = (past ++ [change.key]).eraseDups := by
  have held : change.key ∈ registry.keys ↔ change.key ∈ past := by
    rw [inOrder, List.mem_eraseDups]
  rw [keys_enact, List.eraseDups_append, inOrder, ← inOrder, if_congr held rfl rfl]
  by_cases mentioned : change.key ∈ past
  · simp [mentioned, List.removeAll, inOrder]
  · simp [mentioned, List.removeAll, inOrder, List.eraseDups_cons]

/-! ## Keys along changes -/

namespace Becomes

variable {registry later : Registry} {changes : List Change}

theorem keys_stay
    (becomes : Becomes registry changes later) :
    registry.keys <+: later.keys := by
  induction becomes with
  | same registry =>
      exact List.prefix_refl _
  | @change registry later change rest fits others induction =>
      exact (registry.keys_prefix_enact change).trans induction

theorem nodup_keys
    (becomes : Becomes registry changes later)
    (once : registry.keys.Nodup) :
    later.keys.Nodup := by
  induction becomes with
  | same registry =>
      exact once
  | change fits others induction =>
      exact induction (nodup_keys_enact once _)

theorem keys_eq_eraseDups
    (becomes : Becomes registry changes later)
    {past : List String}
    (inOrder : registry.keys = past.eraseDups) :
    later.keys = (past ++ changes.map Change.key).eraseDups := by
  induction becomes generalizing past with
  | same registry =>
      simpa using inOrder
  | change fits others induction =>
      simpa using induction (keys_enact_eq_eraseDups inOrder _)

/-- A provider is built for a chain whose name is not held, and held from then on. -/
theorem nodup_chains
    (becomes : Becomes registry changes later) :
    (changes.filterMap Change.chain?).Nodup ∧
      ∀ chain ∈ changes.filterMap Change.chain?, chain.name ∉ registry.keys := by
  induction becomes with
  | same registry =>
      exact ⟨List.nodup_nil, by simp⟩
  | @change registry later change rest fits others induction =>
      rcases induction with ⟨once, fresh⟩
      have stillFresh : ∀ chain ∈ rest.filterMap Change.chain?, chain.name ∉ registry.keys :=
        fun chain member held =>
          fresh chain member ((registry.keys_prefix_enact change).subset held)
      cases change with
      | registered key provider =>
          exact ⟨once, stillFresh⟩
      | built chain key provider =>
          rcases fits with ⟨rfl, missing, -⟩
          have first : chain ∉ rest.filterMap Change.chain? := fun member =>
            fresh chain member (registry.key_mem_keys_enact (.built chain chain.name provider))
          refine ⟨List.nodup_cons.2 ⟨first, once⟩, ?_⟩
          intro other member
          rcases List.mem_cons.1 member with rfl | inRest
          · exact find?_eq_none_iff.1 missing
          · exact stillFresh other inRest

/-- What was built stands under the name of its chain. -/
theorem key_eq_of_built_mem
    (becomes : Becomes registry changes later)
    {chain : ChainId}
    {key : String}
    {provider : Provider}
    (member : .built chain key provider ∈ changes) :
    key = chain.name ∧ provider.chain = .ofId chain := by
  induction becomes with
  | same registry =>
      cases member
  | change fits others induction =>
      rcases List.mem_cons.1 member with rfl | inRest
      · rcases fits with ⟨named, -, services, -, built⟩
        exact ⟨named, (Provider.fields_of_build built).1⟩
      · exact induction inRest

/-- A provider stays under its key until another one is put in by hand. -/
theorem find?_eq_some
    (becomes : Becomes registry changes later)
    {name : String}
    {provider : Provider}
    (found : registry.find? name = some provider)
    (untouched : ∀ other, .registered name other ∉ changes) :
    later.find? name = some provider := by
  induction becomes with
  | same registry =>
      exact found
  | @change registry later change rest fits others induction =>
      have different : name ≠ change.key := by
        rintro rfl
        cases change with
        | registered key other =>
            exact untouched other List.mem_cons_self
        | built chain key other =>
            -- What was built stands under a key that was not held before.
            rcases fits with ⟨-, missing, -⟩
            rw [Change.key, missing] at found
            cases found
      apply induction
      · rw [find?_enact, if_neg different]
        exact found
      · intro other member
        exact untouched other (List.mem_cons_of_mem _ member)

end Becomes

/-! ## Requests one after the other -/

theorem after_append
    (registry : Registry)
    (first second : List Request) :
    registry.after (first ++ second) = (registry.after first).after second :=
  List.foldl_append

/-- Resolving keys puts in no provider by hand. -/
theorem registered_not_mem_resolveChanges
    (registry : Registry)
    (keys : List ChainKey)
    (name : String)
    (provider : Provider) :
    .registered name provider ∉ registry.resolveChanges keys := by
  induction keys generalizing registry with
  | nil =>
      exact List.not_mem_nil
  | cons key rest induction =>
      rw [resolveChanges, List.mem_append, Option.mem_toList]
      rintro (changed | inRest)
      · rw [resolveChange?] at changed
        rcases Option.bind_eq_some_iff.1 changed with ⟨written, -, others⟩
        split at others
        · cases others
        · rcases Option.bind_eq_some_iff.1 others with ⟨chain, -, routed⟩
          rcases Option.bind_eq_some_iff.1 routed with ⟨services, -, made⟩
          rcases Option.bind_eq_some_iff.1 made with ⟨built, -, same⟩
          cases same
      · exact induction _ inRest

/-- What was put in by hand, a request put in. -/
theorem eq_register_of_registered_mem
    {registry : Registry}
    {request : Request}
    {name : String}
    {provider : Provider}
    (member : .registered name provider ∈ registry.requestChanges request) :
    ∃ key, request = .register key provider ∧ key.name = .ok name := by
  cases request with
  | register key given =>
      rw [requestChanges, Option.mem_toList] at member
      cases named : key.name with
      | error fault =>
          rw [named] at member
          cases member
      | ok written =>
          rw [named] at member
          cases member
          exact ⟨key, rfl, named⟩
  | _ =>
      exact absurd member (registered_not_mem_resolveChanges _ _ _ _)

theorem exists_register_of_registered_mem
    {registry : Registry}
    {requests : List Request}
    {name : String}
    {provider : Provider}
    (member : .registered name provider ∈ registry.changes requests) :
    ∃ key, .register key provider ∈ requests ∧ key.name = .ok name := by
  induction requests generalizing registry with
  | nil =>
      cases member
  | cons request rest induction =>
      rcases List.mem_append.1 member with here | inRest
      · rcases eq_register_of_registered_mem here with ⟨key, rfl, named⟩
        exact ⟨key, List.mem_cons_self, named⟩
      · rcases induction inRest with ⟨key, later, named⟩
        exact ⟨key, List.mem_cons_of_mem _ later, named⟩

variable {registry : Registry}

/-- Requests that put nothing in for a key leave its provider where it is. -/
theorem find?_after
    (sourced : registry.preferences.AreSourced)
    {name : String}
    {provider : Provider}
    (found : registry.find? name = some provider)
    {between : List Request}
    (untouched : ∀ request ∈ between, ¬ request.Registers name) :
    (registry.after between).find? name = some provider := by
  induction between generalizing registry with
  | nil =>
      exact found
  | cons request rest induction =>
      have became := becomes_handle sourced request
      apply @induction (registry.handle request).2
      · rw [became.preferences]
        exact sourced
      · refine became.find?_eq_some found ?_
        intro other member
        rcases eq_register_of_registered_mem member with ⟨key, rfl, named⟩
        exact untouched _ List.mem_cons_self named
      · intro other member
        exact untouched other (List.mem_cons_of_mem _ member)

theorem answer_resolve
    {key : ChainKey}
    {name : String}
    {provider : Provider}
    (named : key.name = .ok name)
    (found : registry.find? name = some provider) :
    registry.answer (.resolve key) = .provider (.ok provider) := by
  simp only [answer, handle, Registry.resolve, named, Outcome.ok_bind, found]
  rfl

/-- A provider that a key led to is held under its name. -/
theorem find?_of_answer
    (sourced : registry.preferences.AreSourced)
    {key : ChainKey}
    {name : String}
    {provider : Provider}
    (named : key.name = .ok name)
    (answered : registry.answer (.resolve key) = .provider (.ok provider)) :
    (registry.handle (.resolve key)).2.find? name = some provider := by
  have resolution := resolution sourced key
  rw [answer, handle] at answered
  rw [handle]
  generalize registry.resolve key = outcome at resolution answered ⊢
  generalize registry.resolveChange? key = change? at resolution
  cases resolution with
  | unnamed unnamed kind =>
      cases answered
  | refused otherNamed missing unrouted kind =>
      cases answered
  | held otherNamed found =>
      rw [named] at otherNamed
      cases otherNamed
      cases answered
      exact found
  | @built chain services built otherNamed missing routed made =>
      rw [named] at otherNamed
      cases answered
      rw [Except.ok.inj otherNamed]
      exact (find?_put registry chain.name chain.name provider).trans (if_pos rfl)

/-- A key is refused exactly when it is neither held nor the name of a chain that is served. -/
theorem refused_iff
    (sourced : registry.preferences.AreSourced)
    (key : ChainKey) :
    (∃ fault, registry.answer (.resolve key) = .provider (.error fault) ∧
        fault.kind = .unsupportedChain) ↔
      ∃ name, key.name = .ok name ∧ name ∉ registry.keys ∧
        ∀ chain : ChainId, chain.name = name → registry.preferences.lookup chain = none := by
  have resolution := resolution sourced key
  rw [answer, handle]
  generalize registry.resolve key = outcome at resolution ⊢
  generalize registry.resolveChange? key = change? at resolution
  cases resolution with
  | @unnamed fault unnamed kind =>
      constructor
      · rintro ⟨other, refused, otherKind⟩
        cases refused
        exact absurd otherKind kind
      · rintro ⟨name, named, -⟩
        rw [unnamed] at named
        cases named
  | @held name provider named found =>
      constructor
      · rintro ⟨other, refused, -⟩
        cases refused
      · rintro ⟨other, otherNamed, missing, -⟩
        rw [named] at otherNamed
        cases otherNamed
        rw [find?_eq_none_iff.2 missing] at found
        cases found
  | @refused name fault named missing unrouted kind =>
      constructor
      · rintro -
        exact ⟨name, named, find?_eq_none_iff.1 missing, unrouted⟩
      · rintro -
        exact ⟨fault, rfl, kind⟩
  | @built chain services provider named missing routed made =>
      constructor
      · rintro ⟨other, refused, -⟩
        cases refused
      · rintro ⟨other, otherNamed, -, unrouted⟩
        rw [named] at otherNamed
        rw [unrouted chain (Except.ok.inj otherNamed)] at routed
        cases routed

/-- A key that can be printed leads to a provider when it is held or its chain is served. -/
theorem served_iff
    (sourced : registry.preferences.AreSourced)
    {key : ChainKey}
    {name : String}
    (named : key.name = .ok name) :
    (∃ provider, registry.answer (.resolve key) = .provider (.ok provider)) ↔
      name ∈ registry.keys ∨
        ∃ chain : ChainId, chain.name = name ∧ (registry.preferences.lookup chain).isSome := by
  have resolution := resolution sourced key
  rw [answer, handle]
  generalize registry.resolve key = outcome at resolution ⊢
  generalize registry.resolveChange? key = change? at resolution
  cases resolution with
  | unnamed unnamed kind =>
      rw [named] at unnamed
      cases unnamed
  | @held other provider otherNamed found =>
      rw [named] at otherNamed
      cases otherNamed
      have held : name ∈ registry.keys := by
        by_contra missing
        rw [find?_eq_none_iff.2 missing] at found
        cases found
      exact ⟨fun _ => .inl held, fun _ => ⟨provider, rfl⟩⟩
  | refused otherNamed missing unrouted kind =>
      rw [named] at otherNamed
      cases otherNamed
      constructor
      · rintro ⟨provider, answered⟩
        cases answered
      · rintro (held | ⟨chain, called, routed⟩)
        · exact absurd held (find?_eq_none_iff.1 missing)
        · rw [unrouted chain called] at routed
          cases routed
  | @built chain services provider otherNamed missing routed made =>
      rw [named] at otherNamed
      have isRouted : (registry.preferences.lookup chain).isSome := by
        rw [routed]
        rfl
      exact ⟨fun _ => .inr ⟨chain, (Except.ok.inj otherNamed).symm, isRouted⟩,
        fun _ => ⟨provider, rfl⟩⟩

/-! ## Every history -/

/-- What holds of a registry that starts without providers, whatever is asked of it. -/
structure IsOrderly
    (start : Registry) :
    Prop where
  /-- The changes are all that becomes of it, and each takes a number of its own. -/
  changed : ∀ requests,
    start.after requests = (start.changes requests).foldl enact start
  /-- A key leads to one provider, however it is spelled, until another one is put in. -/
  resolvedAgain : ∀ first between key other name provider,
    key.name = .ok name → other.name = .ok name →
    (∀ request ∈ between, ¬ request.Registers name) →
    (start.after first).answer (.resolve key) = .provider (.ok provider) →
    (start.after (first ++ .resolve key :: between)).answer (.resolve other) =
      .provider (.ok provider)
  /-- A provider that was put in is the one that its key leads to. -/
  resolvedRegistered : ∀ first between key other name provider,
    key.name = .ok name → other.name = .ok name →
    (∀ request ∈ between, ¬ request.Registers name) →
    (start.after (first ++ .register key provider :: between)).answer (.resolve other) =
      .provider (.ok provider)
  /-- A provider that is not put in by hand is built. -/
  registeredByHand : ∀ requests name provider,
    .registered name provider ∈ start.changes requests →
    ∃ key, .register key provider ∈ requests ∧ key.name = .ok name
  builtOnce : ∀ requests,
    ((start.changes requests).filterMap Change.chain?).Nodup
  builtUnderName : ∀ requests chain key provider,
    .built chain key provider ∈ start.changes requests →
    key = chain.name ∧ key = provider.chain.id.name
  served : ∀ requests key name, key.name = .ok name →
    ((∃ provider, (start.after requests).answer (.resolve key) = .provider (.ok provider)) ↔
      name ∈ (start.after requests).keys ∨
        ∃ chain : ChainId, chain.name = name ∧ (start.preferences.lookup chain).isSome)
  refused : ∀ requests key,
    (∃ fault, (start.after requests).answer (.resolve key) = .provider (.error fault) ∧
        fault.kind = .unsupportedChain) ↔
      ∃ name, key.name = .ok name ∧ name ∉ (start.after requests).keys ∧
        ∀ chain : ChainId, chain.name = name → start.preferences.lookup chain = none
  unchangedByRefusal : ∀ requests key fault,
    (start.after requests).answer (.resolve key) = .provider (.error fault) →
    start.after (requests ++ [.resolve key]) = start.after requests
  keysStay : ∀ requests more,
    (start.after requests).keys <+: (start.after (requests ++ more)).keys
  keysOnce : ∀ requests,
    (start.after requests).keys.Nodup
  keysInOrder : ∀ requests,
    (start.after requests).keys = ((start.changes requests).map Change.key).eraseDups

/-- A registry that has just been made is orderly, whatever it prefers for its chains. -/
theorem isOrderly_make
    (settings : Settings)
    (convertUnits : Bool)
    (transport : Transport)
    {preferences : Preferences}
    (sourced : preferences.AreSourced) :
    (make settings convertUnits transport preferences).IsOrderly := by
  set start := make settings convertUnits transport preferences
  have becomes (requests : List Request) :
      Becomes start (start.changes requests) (start.after requests) :=
    becomes_after sourced requests
  have stillSourced (requests : List Request) :
      (start.after requests).preferences.AreSourced := by
    rw [(becomes requests).preferences]
    exact sourced
  have handledSourced (requests : List Request) (request : Request) :
      ((start.after requests).handle request).2.preferences.AreSourced := by
    rw [(becomes_handle (stillSourced requests) request).preferences]
    exact stillSourced requests
  constructor
  case changed =>
    intro requests
    exact (becomes requests).eq_foldl
  case resolvedAgain =>
    intro first between key other name provider named otherNamed untouched answered
    rw [after_append]
    refine answer_resolve otherNamed (find?_after (handledSourced first _) ?_ untouched)
    exact find?_of_answer (stillSourced first) named answered
  case resolvedRegistered =>
    intro first between key other name provider named otherNamed untouched
    rw [after_append]
    refine answer_resolve otherNamed (find?_after (handledSourced first _) ?_ untouched)
    rw [handle, register, named]
    exact (find?_put _ name name provider).trans (if_pos rfl)
  case registeredByHand =>
    intro requests name provider member
    exact exists_register_of_registered_mem member
  case builtOnce =>
    intro requests
    exact (becomes requests).nodup_chains.1
  case builtUnderName =>
    intro requests chain key provider member
    rcases (becomes requests).key_eq_of_built_mem member with ⟨named, same⟩
    rw [same, Chain.id_ofId]
    exact ⟨named, named⟩
  case served =>
    intro requests key name named
    rw [served_iff (stillSourced requests) named, (becomes requests).preferences]
  case refused =>
    intro requests key
    rw [refused_iff (stillSourced requests), (becomes requests).preferences]
  case unchangedByRefusal =>
    intro requests key fault answered
    rw [after_append]
    change ((start.after requests).settle ((start.after requests).resolve key)).2 = _
    rw [answer, handle] at answered
    cases resolved : (start.after requests).resolve key with
    | error cause =>
        rfl
    | ok found =>
        rw [resolved] at answered
        cases answered
  case keysStay =>
    intro requests more
    rw [after_append]
    exact (becomes_after (stillSourced requests) more).keys_stay
  case keysOnce =>
    intro requests
    exact (becomes requests).nodup_keys List.nodup_nil
  case keysInOrder =>
    intro requests
    have inOrder : start.keys = ([] : List String).eraseDups := rfl
    simpa using (becomes requests).keys_eq_eraseDups inOrder

/-- The usual preferences are among those for which this holds. -/
theorem isOrderly_make_standard :
    Preferences.standard.AreSourced ∧
      (make ⟨[("ALCHEMY_API_KEY", "k")]⟩ true .host .standard).IsOrderly :=
  ⟨Preferences.areSourced_standard,
    isOrderly_make ⟨[("ALCHEMY_API_KEY", "k")]⟩ true .host Preferences.areSourced_standard⟩

end Registry

end Holdings
