import Holdings.Chain.Table
import Holdings.Proofs.Outcome
import Holdings.Proofs.Source.Credentials
import Holdings.Provider

/-!
# Routes of a new provider

A tier is bound to the first candidate that serves it with a credential.  What is told of the
tier is told of this route, and without one there is a fault instead.  So only the settings
that the candidates look at for the tier matter, and none of them is for the other tier or for
a chain apart from theirs.
-/

namespace Holdings

/-- A candidate is a route of a tier when its source offers the credential of the route. -/
theorem Candidate.route?_eq_some_iff
    {candidate : Candidate}
    {settings : Settings}
    {tier : Tier}
    {route : Route} :
    candidate.route? settings tier = some route ↔
      candidate.source.Offers settings tier route.credential ∧
        route = ⟨candidate.source, candidate.build, route.credential⟩ := by
  unfold Candidate.route?
  constructor
  · intro found
    split at found
    · next serving =>
        rcases Option.map_eq_some_iff.1 found with ⟨credential, there, same⟩
        cases same
        rw [Option.filter_eq_some_iff, decide_eq_true_iff, Source.credential_eq_some_iff] at there
        exact ⟨⟨Source.serves_iff.1 serving, there.1, there.2⟩, rfl⟩
    · cases found
  · rintro ⟨offers, same⟩
    rw [if_pos (Source.serves_iff.2 offers.serves), same,
      Source.credential_eq_some_iff.2 offers.resolves]
    simp [offers.ne_empty]

theorem Candidate.route?_eq_none_iff
    {candidate : Candidate}
    {settings : Settings}
    {tier : Tier} :
    candidate.route? settings tier = none ↔
      ∀ credential, ¬ candidate.source.Offers settings tier credential := by
  rw [Option.eq_none_iff_forall_ne_some]
  constructor
  · intro unrouted credential offers
    exact unrouted ⟨candidate.source, candidate.build, credential⟩
      (Candidate.route?_eq_some_iff.2 ⟨offers, rfl⟩)
  · intro refused route found
    exact refused route.credential (Candidate.route?_eq_some_iff.1 found).1

namespace Provider

/-- A route over the first candidate in order that serves a tier with a credential. -/
inductive IsFirst
    (candidates : List Candidate)
    (settings : Settings)
    (tier : Tier) :
    Route → Prop where
  | offered
      {passed rest : List Candidate}
      {candidate : Candidate}
      {credential : String}
      (order : candidates = passed ++ candidate :: rest)
      (refused : ∀ earlier ∈ passed, ∀ other, ¬ earlier.source.Offers settings tier other)
      (offers : candidate.source.Offers settings tier credential) :
      IsFirst candidates settings tier ⟨candidate.source, candidate.build, credential⟩

theorem findSome?_route?_eq_some_iff
    {candidates : List Candidate}
    {settings : Settings}
    {tier : Tier}
    {route : Route} :
    (candidates.findSome? fun candidate => candidate.route? settings tier) = some route ↔
      IsFirst candidates settings tier route := by
  rw [List.findSome?_eq_some_iff]
  simp only [Candidate.route?_eq_some_iff, Candidate.route?_eq_none_iff]
  constructor
  · rintro ⟨passed, candidate, rest, order, ⟨offers, same⟩, refused⟩
    rw [same]
    exact .offered order refused offers
  · rintro ⟨order, refused, offers⟩
    exact ⟨_, _, _, order, ⟨offers, rfl⟩, refused⟩

/-! ## What is told of a tier -/

section Told

variable {provider : Provider} {tier : Tier} {route : Route} {fault : Fault}

theorem route_eq_ok :
    provider.route tier = .ok route ↔ provider.routes.get tier = some route := by
  unfold Provider.route
  cases provider.routes.get tier with
  | none =>
      simp
  | some standing =>
      simp

theorem route_of_none
    (missing : provider.routes.get tier = none) :
    provider.route tier = .error (.noDataSource provider.chain.id tier) := by
  rw [Provider.route, missing]

theorem sourceOf_of_route
    (found : provider.route tier = .ok route) :
    provider.sourceOf tier = route.source := by
  rw [sourceOf, route_eq_ok.1 found]

theorem apiKey_of_route
    (found : provider.route tier = .ok route) :
    provider.apiKey tier = .ok route.credential := by
  rw [apiKey, found]
  rfl

theorem baseUrl_of_route
    (found : provider.route tier = .ok route) :
    provider.baseUrl tier = route.source.baseUrl tier route.credential := by
  rw [baseUrl, found, Outcome.ok_bind]

theorem apiKey_of_error
    (failed : provider.route tier = .error fault) :
    provider.apiKey tier = .error fault := by
  rw [apiKey, failed]
  rfl

theorem baseUrl_of_error
    (failed : provider.route tier = .error fault) :
    provider.baseUrl tier = .error fault := by
  rw [baseUrl, failed]
  rfl

end Told

/-- Two providers tell the same about a tier. -/
structure TellsSame
    (left right : Provider)
    (tier : Tier) :
    Prop where
  source : left.sourceOf tier = right.sourceOf tier
  key : left.apiKey tier = right.apiKey tier
  url : left.baseUrl tier = right.baseUrl tier

theorem tellsSame_of_routes
    {left right : Provider}
    {tier : Tier}
    (sameChain : left.chain = right.chain)
    (samePreferred : left.preferred = right.preferred)
    (sameRoute : left.routes.get tier = right.routes.get tier) :
    TellsSame left right tier := by
  have routes : left.route tier = right.route tier := by
    rw [route, route, sameRoute, sameChain]
  constructor
  · rw [sourceOf, sourceOf, sameRoute, samePreferred]
  · rw [apiKey, apiKey, routes]
  · rw [baseUrl, baseUrl, routes]

/--
Providers of a chain over candidates that take their routes from the settings: the first
candidate that serves a tier with a credential is the one it is bound to.
-/
structure RoutesBySettings
    (provider : Settings → Provider)
    (chain : Chain)
    (preferred : Candidate)
    (fallbacks : List Candidate) :
    Prop where
  bound : ∀ settings tier route,
    (provider settings).routes.get tier = some route ↔
      IsFirst (preferred :: fallbacks) settings tier route
  unbound : ∀ settings tier,
    (provider settings).routes.get tier = none ↔
      ∀ candidate ∈ preferred :: fallbacks, ∀ credential,
        ¬ candidate.source.Offers settings tier credential
  tellsRoute : ∀ settings tier route,
    (provider settings).routes.get tier = some route →
      (provider settings).sourceOf tier = route.source ∧
        (provider settings).apiKey tier = .ok route.credential ∧
          (provider settings).baseUrl tier = route.source.baseUrl tier route.credential
  tellsMissing : ∀ settings tier,
    (provider settings).routes.get tier = none →
      (provider settings).sourceOf tier = preferred.source ∧
        ∃ fault, fault.kind = .configuration ∧
          (provider settings).apiKey tier = .error fault ∧
            (provider settings).baseUrl tier = .error fault
  /-- Nothing counts but the settings that some candidate looks at for the tier. -/
  agreeing : ∀ left right tier,
    (∀ candidate ∈ preferred :: fallbacks, ∀ key ∈ candidate.source.credentialKeys tier,
        left.AgreeAt right key) →
      TellsSame (provider left) (provider right) tier
  /-- Settings for the other tier, or for a chain apart from the candidates', do not count. -/
  elsewhere : ∀ left right tier,
    (∀ candidate ∈ preferred :: fallbacks, candidate.source.chain = chain) →
      (∀ key, left.AgreeAt right key ∨
        (∃ other, other ≠ tier ∧ NamesTier chain.keyName other key) ∨
          ∃ other, AreApart chain.keyName other ∧ NamesChain other key) →
        TellsSame (provider left) (provider right) tier
  /-- For a chain with a name of the table, these are the settings for the other chains. -/
  apart : ∀ own other,
    chain.keyName = (Chain.ofId own).keyName → other ≠ own →
      AreApart chain.keyName (Chain.ofId other).keyName

/-- Every new provider takes its routes from the settings. -/
theorem routesBySettings_make
    (number : Nat)
    (chain : Chain)
    (rendering : Rendering)
    (transport : Transport)
    (exposesCalls : Bool)
    (preferred : Candidate)
    (fallbacks : List Candidate) :
    RoutesBySettings
      (fun settings =>
        make number chain settings rendering transport exposesCalls preferred fallbacks)
      chain preferred fallbacks := by
  have agreeing (left right : Settings) (tier : Tier)
      (agree : ∀ candidate ∈ preferred :: fallbacks,
        ∀ key ∈ candidate.source.credentialKeys tier, left.AgreeAt right key) :
      TellsSame
        (make number chain left rendering transport exposesCalls preferred fallbacks)
        (make number chain right rendering transport exposesCalls preferred fallbacks) tier := by
    refine tellsSame_of_routes rfl rfl ?_
    simp only [make, ByTier.get_ofFn]
    apply findSome?_congr
    intro candidate member
    rw [Candidate.route?, Candidate.route?, Source.credential_congr (agree candidate member)]
  constructor
  case bound =>
    intro settings tier route
    rw [make, ByTier.get_ofFn, findSome?_route?_eq_some_iff]
  case unbound =>
    intro settings tier
    rw [make, ByTier.get_ofFn, List.findSome?_eq_none_iff]
    simp only [Candidate.route?_eq_none_iff]
  case tellsRoute =>
    intro settings tier route found
    exact ⟨sourceOf_of_route (route_eq_ok.2 found), apiKey_of_route (route_eq_ok.2 found),
      baseUrl_of_route (route_eq_ok.2 found)⟩
  case tellsMissing =>
    intro settings tier missing
    have failed := route_of_none missing
    refine ⟨?_, .noDataSource chain.id tier, rfl, apiKey_of_error failed, baseUrl_of_error failed⟩
    rw [sourceOf, missing]
    rfl
  case agreeing =>
    exact agreeing
  case elsewhere =>
    intro left right tier ofChain others
    apply agreeing
    intro candidate member key looked
    have sameName : candidate.source.chain.keyName = chain.keyName := by
      rw [ofChain candidate member]
    rcases others key with agree | ⟨other, different, named⟩ | ⟨other, apart, named⟩
    · exact agree
    · rw [← sameName] at named
      exact absurd looked (Source.not_mem_credentialKeys_of_tier different named)
    · rw [← sameName] at apart
      exact absurd looked (Source.not_mem_credentialKeys_of_chain apart named)
  case apart =>
    intro own other sameName different
    rw [sameName]
    exact Chain.areApart_keyName (Ne.symm different)

/-- A service for Ethereum, with its builder. -/
def ethereumCandidate
    (service : Service) :
    Candidate :=
  ⟨⟨service, Chain.ethereum⟩, .ofService .evm service⟩

/-- A provider for Ethereum over an indexer, or else over a bare node. -/
def ethereumProvider
    (settings : Settings) :
    Provider :=
  make 0 Chain.ethereum settings ⟨.evm, true⟩ .standard true (ethereumCandidate .alchemy)
    [ethereumCandidate .rpc]

/-- A key for the test network changes nothing for the main network. -/
theorem routesBySettings_make_testnet :
    TellsSame (ethereumProvider ⟨[("ALCHEMY_API_KEY_ETH_TESTNET", "key")]⟩)
      (ethereumProvider ⟨[]⟩) .mainnet := by
  apply (routesBySettings_make 0 Chain.ethereum ⟨.evm, true⟩ .standard true
    (ethereumCandidate .alchemy) [ethereumCandidate .rpc]).elsewhere
  · intro candidate member
    rcases List.mem_pair.1 member with rfl | rfl <;> rfl
  · intro key
    by_cases named : key = "ALCHEMY_API_KEY_ETH_TESTNET"
    · exact .inr (.inl ⟨.testnet, by decide, .alchemy, named⟩)
    · left
      apply Settings.AgreeAt.of_eq
      rw [Settings.get?, List.lookup_cons, beq_eq_false_iff_ne.2 named]
      rfl

end Provider

end Holdings
