import Holdings.Proofs.Network.Within
import Holdings.Proofs.Outcome
import Holdings.Proofs.Provider.Routing
import Holdings.Registry.Basic

/-!
# The providers of a registry

A registry builds a provider for a chain of the table over sources of that
chain.  Questions only add backends to it, and a backend that is kept for a tier
is always the one that the route of the tier builds, apart from the metadata
that it found.
-/

namespace Holdings

open Fetch

/-- A backend without what it has found so far. -/
def Backend.withoutCache : Backend → Backend
  | .solanaNode node _ => .solanaNode node .empty
  | backend => backend

/-- The family of the chains that a backend can serve. -/
def Backend.family : Backend → Family
  | .indexer _ => .evm
  | .evmNode _ => .evm
  | .solanaNode _ _ => .solana

theorem Backend.family_withoutCache
    (backend : Backend) :
    backend.withoutCache.family = backend.family := by
  cases backend <;> rfl

theorem Source.kind_of_baseUrl
    {source : Source}
    {tier : Tier}
    {credential : String}
    {fault : Fault}
    (refused : source.baseUrl tier credential = .error fault) :
    fault.kind = .configuration := by
  rcases source with ⟨service, chain⟩
  cases service with
  | alchemy =>
      cases named : network? ⟨.alchemy, chain⟩ tier with
      | some name =>
          simp only [baseUrl, network, named] at refused
          cases refused
      | none =>
          simp only [baseUrl, network, named] at refused
          cases refused
          rfl
  | quicknode =>
      cases refused
  | rpc =>
      cases refused

/-- With a credential, nothing but a missing network stands in the way of a backend. -/
theorem Builder.kind_of_ofService
    {family : Family}
    {source : Source}
    {tier : Tier}
    {credential : String}
    {fault : Fault}
    (notEmpty : credential ≠ "")
    (refused : ofService family source.service source tier credential = .error fault) :
    fault.kind = .configuration := by
  cases family with
  | evm =>
      cases offered : source.service with
      | alchemy =>
          rw [offered] at refused
          cases named : source.network? tier with
          | some name =>
              simp only [ofService, indexer, offered, Source.network, named, bind, Except.bind,
                Evm.Alchemy.open?, if_neg notEmpty] at refused
              cases refused
          | none =>
              simp only [ofService, indexer, offered, Source.network, named, bind, Except.bind]
                at refused
              cases refused
              rfl
      | quicknode =>
          rw [offered] at refused
          exact Source.kind_of_baseUrl (Outcome.eq_error_of_bind_pure refused)
      | rpc =>
          rw [offered] at refused
          exact Source.kind_of_baseUrl (Outcome.eq_error_of_bind_pure refused)
  | solana =>
      exact Source.kind_of_baseUrl (Outcome.eq_error_of_bind_pure refused)

/-- What the builder of a family builds serves the family and has not found anything. -/
theorem Builder.family_ofService
    {family : Family}
    {service : Service}
    {source : Source}
    {tier : Tier}
    {credential : String}
    {backend : Backend}
    (built : ofService family service source tier credential = .ok backend) :
    backend.family = family ∧ backend.withoutCache = backend := by
  have node {listings : Bool}
      (built : evmNode listings source tier credential = .ok backend) :
      backend.family = .evm ∧ backend.withoutCache = backend := by
    rcases Outcome.bind_eq_ok.1 built with ⟨url, -, same⟩
    cases same
    exact ⟨rfl, rfl⟩
  cases family with
  | evm =>
      cases service with
      | alchemy =>
          rcases source with ⟨offered, chain⟩
          cases offered with
          | alchemy =>
              rcases Outcome.bind_eq_ok.1 built with ⟨network, -, rest⟩
              rcases Outcome.bind_eq_ok.1 rest with ⟨client, -, same⟩
              cases same
              exact ⟨rfl, rfl⟩
          | quicknode =>
              cases built
          | rpc =>
              cases built
      | quicknode =>
          exact node built
      | rpc =>
          exact node built
  | solana =>
      rcases Outcome.bind_eq_ok.1 built with ⟨url, -, same⟩
      cases same
      exact ⟨rfl, rfl⟩

namespace Provider

/-- A backend is what the route of a tier builds, apart from what it has found. -/
def Routes
    (provider : Provider)
    (tier : Tier)
    (backend : Backend) :
    Prop :=
  ∃ route,
    provider.routes.get tier = some route ∧
      route.build route.source tier route.credential = .ok backend.withoutCache

/-- The backend that the route of a tier opens. -/
def opens
    (provider : Provider)
    (tier : Tier) :
    Except Fault Backend := do
  let route ← provider.route tier
  route.build route.source tier route.credential

theorem routes_iff
    {provider : Provider}
    {tier : Tier}
    {backend : Backend} :
    provider.Routes tier backend ↔ provider.opens tier = .ok backend.withoutCache := by
  rw [Routes, opens, Outcome.bind_eq_ok]
  simp only [route_eq_ok]

/-- A backend that is not kept yet is opened, and kept from then on. -/
theorem backendOf_of_none
    {provider : Provider}
    {tier : Tier}
    (missing : provider.backends.get tier = none) :
    provider.backendOf tier = do
      let backend ← provider.opens tier
      return (backend, provider.keep tier backend) := by
  rw [Provider.backendOf, opens, missing, bind_assoc]

/--
A provider of a chain of the table that passes calls on, all whose routes open a source of the
chain.
-/
structure IsRouted
    (provider : Provider) :
    Prop where
  chain : ∃ chain, provider.chain = .ofId chain
  rendering : provider.rendering.family = provider.chain.family
  exposesCalls : provider.exposesCalls = true
  routes : ∀ tier route,
    provider.routes.get tier = some route →
      route.source.chain = provider.chain ∧
        route.build = .ofService provider.chain.family route.source.service ∧
          route.credential ≠ ""
  backends : ∀ tier backend,
    provider.backends.get tier = some backend → provider.Routes tier backend

/-! ## What a registry builds -/

/-- The candidates of a chain are its services. -/
theorem exists_service_of_mem
    {chain : Chain}
    {services : List Service}
    {candidate : Candidate}
    (member : candidate ∈ services.map (Registry.candidate chain)) :
    ∃ service, candidate = Registry.candidate chain service := by
  rcases List.mem_map.1 member with ⟨service, -, same⟩
  exact ⟨service, same.symm⟩

theorem isRouted_build
    {registry : Registry}
    {chain : ChainId}
    {services : List Service}
    {provider : Provider}
    (built : registry.build chain services = .ok provider) :
    provider.IsRouted := by
  unfold Registry.build at built
  cases services with
  | nil =>
      cases built
  | cons first rest =>
      cases built
      constructor
      · exact ⟨chain, rfl⟩
      · rfl
      · rfl
      · intro tier route found
        simp only [make, ByTier.get_ofFn] at found ⊢
        rcases List.exists_of_findSome?_eq_some found with ⟨candidate, member, routed⟩
        rcases Candidate.route?_eq_some_iff.1 routed with ⟨offers, same⟩
        rw [← List.map_cons] at member
        rcases exists_service_of_mem member with ⟨service, rfl⟩
        rw [same]
        exact ⟨rfl, rfl, offers.ne_empty⟩
      · intro tier backend kept
        cases tier with
        | mainnet =>
            cases kept
        | testnet =>
            cases kept

/-- A new provider has no backends yet, and renders as its registry is set to. -/
theorem fields_of_build
    {registry : Registry}
    {chain : ChainId}
    {services : List Service}
    {provider : Provider}
    (built : registry.build chain services = .ok provider) :
    provider.chain = .ofId chain ∧
      provider.rendering = ⟨(Chain.ofId chain).family, registry.convertUnits⟩ ∧
        provider.backends = ⟨none, none⟩ := by
  cases services with
  | nil =>
      cases built
  | cons first rest =>
      cases built
      exact ⟨rfl, rfl, rfl⟩

/-- Nothing but a missing source stands in the way of the endpoint of a tier. -/
theorem kind_of_baseUrl
    {provider : Provider}
    {tier : Tier}
    {fault : Fault}
    (refused : provider.baseUrl tier = .error fault) :
    fault.kind = .configuration := by
  unfold Provider.baseUrl Provider.route at refused
  cases stands : provider.routes.get tier with
  | none =>
      rw [stands] at refused
      cases refused
      rfl
  | some route =>
      rw [stands] at refused
      exact Source.kind_of_baseUrl refused

/-! ## Providers whose routes are right -/

namespace IsRouted

variable {provider : Provider}

/-- A backend that a route builds serves the family of the chain. -/
theorem family_of_routes
    (routed : provider.IsRouted)
    {tier : Tier}
    {backend : Backend}
    (belongs : provider.Routes tier backend) :
    backend.family = provider.chain.family := by
  rcases belongs with ⟨route, found, built⟩
  rw [(routed.routes tier route found).2.1] at built
  rw [← backend.family_withoutCache]
  exact (Builder.family_ofService built).1

theorem keep
    (routed : provider.IsRouted)
    {tier : Tier}
    {backend : Backend}
    (belongs : provider.Routes tier backend) :
    (provider.keep tier backend).IsRouted := by
  refine ⟨routed.chain, routed.rendering, routed.exposesCalls, routed.routes, ?_⟩
  intro other kept found
  by_cases same : other = tier
  · subst same
    simp only [Provider.keep, ByTier.get_set_self, Option.some.injEq] at found
    subst found
    exact belongs
  · simp only [Provider.keep, ByTier.get_set_of_ne _ _ same] at found
    exact routed.backends other kept found

/-- Nothing but a missing source stands in the way of what a route opens. -/
theorem kind_of_opens
    (routed : provider.IsRouted)
    {tier : Tier}
    {fault : Fault}
    (refused : provider.opens tier = .error fault) :
    fault.kind = .configuration := by
  unfold opens Provider.route at refused
  cases stands : provider.routes.get tier with
  | none =>
      rw [stands] at refused
      cases refused
      rfl
  | some route =>
      rcases routed.routes tier route stands with ⟨-, sameBuild, notEmpty⟩
      rw [stands] at refused
      dsimp only [bind, Except.bind] at refused
      rw [sameBuild] at refused
      exact Builder.kind_of_ofService notEmpty refused

/-- What a route opens has not found anything. -/
theorem withoutCache_of_opens
    (routed : provider.IsRouted)
    {tier : Tier}
    {backend : Backend}
    (opened : provider.opens tier = .ok backend) :
    backend.withoutCache = backend := by
  rcases Outcome.bind_eq_ok.1 opened with ⟨route, found, built⟩
  rw [(routed.routes tier route (route_eq_ok.1 found)).2.1] at built
  exact (Builder.family_ofService built).2

/-- Nothing but a missing source stands in the way of the backend of a tier. -/
theorem kind_of_backendOf
    (routed : provider.IsRouted)
    {tier : Tier}
    {fault : Fault}
    (refused : provider.backendOf tier = .error fault) :
    fault.kind = .configuration := by
  cases kept : provider.backends.get tier with
  | some backend =>
      rw [Provider.backendOf, kept] at refused
      cases refused
  | none =>
      rw [backendOf_of_none kept] at refused
      exact routed.kind_of_opens (Outcome.eq_error_of_bind_pure refused)

/-- The backend of a tier, kept or new, is what the route builds; it is kept from then on. -/
theorem backendOf
    (routed : provider.IsRouted)
    {tier : Tier}
    {backend : Backend}
    {later : Provider}
    (found : provider.backendOf tier = .ok (backend, later)) :
    provider.Routes tier backend ∧ later.IsRouted ∧
      later = { provider with backends := later.backends } := by
  cases kept : provider.backends.get tier with
  | some standing =>
      rw [Provider.backendOf, kept] at found
      cases found
      exact ⟨routed.backends tier backend kept, routed, rfl⟩
  | none =>
      rw [backendOf_of_none kept] at found
      rcases Outcome.bind_eq_ok.1 found with ⟨fresh, opened, same⟩
      cases same
      have belongs : provider.Routes tier backend := by
        rw [routes_iff, routed.withoutCache_of_opens opened]
        exact opened
      exact ⟨belongs, routed.keep belongs, rfl⟩

end IsRouted

/-! ## Steps of providers -/

/--
What a question makes of a provider.  At most, a backend is built and kept, and what it has
found is kept with it.
-/
inductive Becomes
    (provider : Provider) :
    Provider → Prop where
  | unchanged :
      Becomes provider provider
  | built
      {tier : Tier}
      {backend : Backend}
      {later : Provider}
      (found : provider.backendOf tier = .ok (backend, later)) :
      Becomes provider later
  | kept
      {tier : Tier}
      {backend kept : Backend}
      {later : Provider}
      (found : provider.backendOf tier = .ok (backend, later))
      (same : kept.withoutCache = backend.withoutCache) :
      Becomes provider (later.keep tier kept)

variable {provider later : Provider} {network : Network} {log grown : Log}

/-- What a job with the backend of a tier leaves: nothing new, a new backend, or a changed one. -/
inductive Leaves
    {α : Type}
    (provider : Provider)
    (tier : Tier)
    (job : Backend → Fetch (α × Backend))
    (network : Network)
    (log : Log) :
    Provider → Prop where
  | refused
      {fault : Fault}
      (missing : provider.backendOf tier = .error fault) :
      Leaves provider tier job network log provider
  | failed
      {backend : Backend}
      {built : Provider}
      {fault : Fault}
      {grown : Log}
      (found : provider.backendOf tier = .ok (backend, built))
      (jobRun : (job backend).run network log = (.error fault, grown)) :
      Leaves provider tier job network log built
  | done
      {backend kept : Backend}
      {built : Provider}
      {value : α}
      {grown : Log}
      (found : provider.backendOf tier = .ok (backend, built))
      (jobRun : (job backend).run network log = (.ok (value, kept), grown)) :
      Leaves provider tier job network log (built.keep tier kept)

theorem leaves_withBackend
    {α : Type}
    {tier : Tier}
    {job : Backend → Fetch (α × Backend)}
    {outcome : Except Fault α}
    (ended : (provider.withBackend tier job).run network log = (.ok (outcome, later), grown)) :
    provider.Leaves tier job network log later := by
  unfold Provider.withBackend at ended
  cases found : provider.backendOf tier with
  | error fault =>
      rw [found] at ended
      cases ended
      exact .refused found
  | ok held =>
      rcases held with ⟨backend, built⟩
      rw [found] at ended
      cases jobRun : (job backend).run network log with
      | mk result jobLog =>
          simp only [run_bind, run_attempt, jobRun] at ended
          cases result with
          | error fault =>
              cases ended
              exact .failed found jobRun
          | ok value =>
              rcases value with ⟨value, kept⟩
              cases ended
              exact .done found jobRun

/-- A job that leaves the backend as it is, apart from what it found, makes a step. -/
theorem becomes_withBackend
    {α : Type}
    {tier : Tier}
    {job : Backend → Fetch (α × Backend)}
    (jobKeeps : ∀ backend network log value kept grown,
      (job backend).run network log = (.ok (value, kept), grown) →
        kept.withoutCache = backend.withoutCache)
    {outcome : Except Fault α}
    (ended : (provider.withBackend tier job).run network log = (.ok (outcome, later), grown)) :
    provider.Becomes later := by
  cases leaves_withBackend ended with
  | refused missing =>
      exact .unchanged
  | failed found jobRun =>
      exact .built found
  | done found jobRun =>
      exact .kept found (jobKeeps _ _ _ _ _ _ jobRun)

theorem withoutCache_balances
    {backend kept : Backend}
    {transport : Transport}
    {chain : ChainId}
    {address : Json}
    {tier : Tier}
    {payload : Payload}
    (ended : (backend.balances transport chain address tier).run network log =
      (.ok (payload, kept), grown)) :
    kept.withoutCache = backend.withoutCache := by
  cases backend with
  | indexer client =>
      rcases bind_run_eq_ok ended with ⟨content, between, -, same⟩
      cases same
      rfl
  | evmNode node =>
      rcases bind_run_eq_ok ended with ⟨content, between, -, same⟩
      cases same
      rfl
  | solanaNode node cache =>
      rcases bind_run_eq_ok ended with ⟨content, between, -, same⟩
      cases same
      rfl

theorem eq_of_unchanged
    {α : Type}
    {job : Backend → Fetch α}
    {backend kept : Backend}
    {value : α}
    (ended : (unchanged job backend).run network log = (.ok (value, kept), grown)) :
    kept = backend := by
  rcases bind_run_eq_ok ended with ⟨result, between, -, same⟩
  cases same
  rfl

/-! ## What a question comes to -/

/-- A question about balances is a job for the backend of the tier, if it names one. -/
theorem withBackend_of_balances
    {address tier : Json}
    {answer : Balances}
    (ended : (provider.balances address tier).run network log = (.ok (answer, later), grown)) :
    later = provider ∨
      ∃ named outcome between,
        (provider.withBackend named fun backend =>
            backend.balances provider.transport provider.chain.id address named).run network log =
          (.ok (outcome, later), between) := by
  rcases bind_run_eq_ok ended with ⟨⟨outcome, kept⟩, between, attempted, answered⟩
  have same : kept = later := by
    cases outcome with
    | ok balances =>
        cases answered
        rfl
    | error fault =>
        cases answered
        rfl
  subst same
  unfold tryBalances at attempted
  cases meant : Tier.read tier with
  | error fault =>
      rw [meant] at attempted
      cases attempted
      exact .inl rfl
  | ok named =>
      rw [meant] at attempted
      rcases bind_run_eq_ok attempted with ⟨⟨payload, kept⟩, jobLog, jobRun, same⟩
      cases same
      exact .inr ⟨named, payload, _, jobRun⟩

theorem withBackend_of_gasPrice
    {tier : Json}
    {outcome : Except Fault String}
    (ended : (provider.gasPrice tier).run network log = (.ok (outcome, later), grown)) :
    later = provider ∨
      ∃ named fee between,
        (provider.withBackend named
            (unchanged fun backend => backend.fees provider.transport)).run network log =
          (.ok (fee, later), between) := by
  unfold Provider.gasPrice at ended
  cases meant : Tier.read tier with
  | error fault =>
      rw [meant] at ended
      cases ended
      exact .inl rfl
  | ok named =>
      rw [meant] at ended
      rcases bind_run_eq_ok ended with ⟨⟨fee, kept⟩, jobLog, jobRun, same⟩
      cases same
      exact .inr ⟨named, fee, _, jobRun⟩

theorem withBackend_of_estimateGas
    {transaction tier : Json}
    {outcome : Except Fault String}
    (ended : (provider.estimateGas transaction tier).run network log =
      (.ok (outcome, later), grown)) :
    later = provider ∨
      ∃ named,
        (provider.withBackend named (unchanged fun backend =>
            backend.estimate provider.transport provider.chain.id transaction)).run network log =
          (.ok (outcome, later), grown) := by
  unfold Provider.estimateGas at ended
  cases meant : Tier.read tier with
  | error fault =>
      rw [meant] at ended
      cases ended
      exact .inl rfl
  | ok named =>
      rw [meant] at ended
      exact .inr ⟨named, ended⟩

theorem becomes_balances
    {address tier : Json}
    {answer : Balances}
    (ended : (provider.balances address tier).run network log = (.ok (answer, later), grown)) :
    provider.Becomes later := by
  rcases withBackend_of_balances ended with rfl | ⟨named, outcome, between, jobRun⟩
  · exact .unchanged
  · exact becomes_withBackend (fun _ _ _ _ _ _ => withoutCache_balances) jobRun

theorem becomes_gasPrice
    {tier : Json}
    {outcome : Except Fault String}
    (ended : (provider.gasPrice tier).run network log = (.ok (outcome, later), grown)) :
    provider.Becomes later := by
  rcases withBackend_of_gasPrice ended with rfl | ⟨named, fee, between, jobRun⟩
  · exact .unchanged
  · exact becomes_withBackend
      (fun _ _ _ _ _ _ ended => congrArg Backend.withoutCache (eq_of_unchanged ended)) jobRun

theorem becomes_estimateGas
    {transaction tier : Json}
    {outcome : Except Fault String}
    (ended : (provider.estimateGas transaction tier).run network log =
      (.ok (outcome, later), grown)) :
    provider.Becomes later := by
  rcases withBackend_of_estimateGas ended with rfl | ⟨named, jobRun⟩
  · exact .unchanged
  · exact becomes_withBackend
      (fun _ _ _ _ _ _ ended => congrArg Backend.withoutCache (eq_of_unchanged ended)) jobRun

/-- No step makes a route or a backend wrong. -/
theorem IsRouted.becomes
    (routed : provider.IsRouted)
    (becomes : provider.Becomes later) :
    later.IsRouted := by
  cases becomes with
  | unchanged =>
      exact routed
  | built found =>
      exact (routed.backendOf found).2.1
  | @kept tier backend kept built found same =>
      rcases routed.backendOf found with ⟨belongs, stillRouted, standing⟩
      apply stillRouted.keep
      rw [routes_iff] at belongs ⊢
      rw [standing, same]
      exact belongs

/-! ## Histories of providers -/

/-- The providers that registries build, with what any questions have made of them. -/
inductive Arises : Provider → Prop where
  | built
      {registry : Registry}
      {chain : ChainId}
      {services : List Service}
      {provider : Provider}
      (built : registry.build chain services = .ok provider) :
      Arises provider
  | balances
      {provider later : Provider}
      {address tier : Json}
      {network : Network}
      {log grown : Log}
      {answer : Balances}
      (arises : Arises provider)
      (ended : (provider.balances address tier).run network log =
        (.ok (answer, later), grown)) :
      Arises later
  | gasPrice
      {provider later : Provider}
      {tier : Json}
      {network : Network}
      {log grown : Log}
      {outcome : Except Fault String}
      (arises : Arises provider)
      (ended : (provider.gasPrice tier).run network log = (.ok (outcome, later), grown)) :
      Arises later
  | estimateGas
      {provider later : Provider}
      {transaction tier : Json}
      {network : Network}
      {log grown : Log}
      {outcome : Except Fault String}
      (arises : Arises provider)
      (ended : (provider.estimateGas transaction tier).run network log =
        (.ok (outcome, later), grown)) :
      Arises later

/-- Whatever a provider was asked before, all its routes and backends are right. -/
theorem Arises.isRouted
    (arises : provider.Arises) :
    provider.IsRouted := by
  induction arises with
  | built built =>
      exact isRouted_build built
  | balances _ ended routed =>
      exact routed.becomes (becomes_balances ended)
  | gasPrice _ ended routed =>
      exact routed.becomes (becomes_gasPrice ended)
  | estimateGas _ ended routed =>
      exact routed.becomes (becomes_estimateGas ended)

end Provider

end Holdings
