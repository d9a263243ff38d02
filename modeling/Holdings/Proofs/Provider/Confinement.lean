import Holdings.Proofs.Backend.Addresses
import Holdings.Proofs.Provider.Questions
import Holdings.Proofs.Provider.Runs

/-!
# Where the calls of a tier go

Whatever is done with a provider, and in whatever order over the tiers, the calls
made for a tier go to the endpoint of this tier.  The only others ask the indexer
for pages, at the network of the tier and with its credential.  Three parts of a
provider put an endpoint together, the route, the builder of the backend and the
indexer, and they come to the same.
-/

namespace Holdings.Provider

open Fetch

/-! ## Calls that belong to a tier -/

/-- The calls that may be made for a tier. -/
def Owns
    (provider : Provider)
    (tier : Tier) :
    Call → Prop
  | .rpc _ url _ _ => provider.baseUrl tier = .ok url
  | .page url _ =>
    ∃ network key,
      (provider.sourceOf tier).service = .alchemy ∧
        provider.chain.alias? .alchemy tier = some network ∧
          provider.apiKey tier = .ok key ∧
            url = s!"https://{network}.g.alchemy.com/nft/v3/{key}/getNFTsForOwner"

/-- The calls that may be made for what a value names as a tier; there are none if it does not. -/
def OwnsAt
    (provider : Provider)
    (given : Json)
    (call : Call) :
    Prop :=
  ∃ tier, Tier.read given = .ok tier ∧ provider.Owns tier call

variable {provider later : Provider} {events : Event → Prop}

theorem alias?_of_network
    {source : Source}
    {tier : Tier}
    {network : String}
    (named : source.network tier = .ok network) :
    source.chain.alias? .alchemy tier = some network := by
  unfold Source.network at named
  split at named
  · rename_i known found
    cases named
    exact (Option.filter_eq_some_iff.1 found).1
  · cases named

/-- What a backend asks belongs to the tier that it serves. -/
theorem IsRouted.owns
    (routed : provider.IsRouted)
    {tier : Tier}
    {backend : Backend}
    (belongs : provider.Routes tier backend)
    {call : Call}
    (reached : backend.Reaches provider.transport call) :
    provider.Owns tier call := by
  cases call with
  | rpc channel url method params =>
      rw [Owns, reached.url_eq]
      exact routed.baseUrl_eq belongs
  | page url query =>
      rcases reached.exists_client with ⟨client, rfl, rfl⟩
      rcases routed.opens_of_routes belongs with ⟨route, found, sameChain, opens⟩
      rcases client with ⟨network, key⟩
      generalize provider.chain.family = family at opens
      cases opens with
      | indexer isIndexer named =>
          refine ⟨network, route.credential, ?_, ?_, ?_, rfl⟩
          · rw [sourceOf_of_route found]
            exact isIndexer
          · rw [← sameChain]
            exact alias?_of_network named
          · rw [apiKey, found]
            rfl

theorem IsRouted.ownsAt
    (routed : provider.IsRouted)
    {given : Json}
    {call : Call}
    (reached : provider.Reaches given call) :
    provider.OwnsAt given call := by
  rcases reached with ⟨named, backend, built, meant, found, reached⟩
  exact ⟨named, meant, routed.owns (routed.backendOf found).1 reached⟩

/-- The endpoint of a tier is decided when the provider is built. -/
theorem baseUrl_congr
    (alike : later.bare = provider.bare)
    (tier : Tier) :
    later.baseUrl tier = provider.baseUrl tier :=
  congrArg (fun bare => bare.baseUrl tier) alike

theorem ownsAt_congr
    (alike : later.bare = provider.bare)
    (given : Json)
    (call : Call) :
    later.OwnsAt given call = provider.OwnsAt given call :=
  congrArg (fun bare => bare.OwnsAt given call) alike

/-! ## The calls of one operation -/

theorem within_balances
    (provider : Provider)
    (address tier : Json) :
    (provider.balances address tier).Within (provider.Reaches tier) fun _ => True := by
  apply Within.bind
  · exact (provider.within_tryBalances address tier).mono (fun _ reached => reached)
      fun _ _ => trivial
  · rintro ⟨outcome, later⟩
    cases outcome with
    | ok balances =>
        exact Within.pure _
    | error fault =>
        apply Within.bind (Within.record trivial)
        intro _
        exact Within.pure _

theorem within_gasPrice
    (provider : Provider)
    (tier : Json) :
    (provider.gasPrice tier).Within (provider.Reaches tier) events := by
  unfold Provider.gasPrice
  cases meant : Tier.read tier with
  | error fault =>
      exact Within.pure _
  | ok named =>
      apply Within.bind
      · apply within_withBackend
        intro backend built found
        apply Within.bind
        · exact (backend.within_fees provider.transport).widen fun call reached =>
            ⟨named, backend, built, meant, found, reached⟩
        · intro fee
          exact Within.pure _
      · intro answered
        exact Within.pure _

theorem within_estimateGas
    (provider : Provider)
    (transaction tier : Json) :
    (provider.estimateGas transaction tier).Within (provider.Reaches tier) events := by
  unfold Provider.estimateGas
  cases meant : Tier.read tier with
  | error fault =>
      exact Within.pure _
  | ok named =>
      apply within_withBackend
      intro backend built found
      apply Within.bind
      · exact (backend.within_estimate _ _ transaction).widen fun call reached =>
          ⟨named, backend, built, meant, found, reached⟩
      · intro gas
        exact Within.pure _

theorem within_callMethod
    (provider : Provider)
    (method : String)
    (params tier : Json) :
    (provider.callMethod method params tier).Within (provider.OwnsAt tier) events := by
  unfold Provider.callMethod
  cases meant : Tier.read tier with
  | error fault =>
      show (Fetch.fail fault : Fetch Json).Within _ _
      exact Within.fail fault
  | ok named =>
      rw [liftM_ok_bind]
      cases opened : provider.baseUrl named with
      | error fault =>
          show (Fetch.fail fault : Fetch Json).Within _ _
          exact Within.fail fault
      | ok endpoint =>
          rw [liftM_ok_bind]
          apply (provider.transport.within_rpc endpoint method _).widen
          intro call isRpc
          cases call with
          | rpc channel url asked given =>
              refine ⟨named, meant, ?_⟩
              rw [Owns, opened, isRpc.2.1]
          | page url query =>
              exact isRpc.elim

theorem within_checkHealth
    (provider : Provider)
    (tier : Json) :
    (provider.checkHealth tier).Within (provider.OwnsAt tier) fun _ => True := by
  apply Within.bind (Within.attempt (provider.within_callMethod _ _ tier))
  intro answered
  cases answered with
  | ok value =>
      exact Within.pure _
  | error fault =>
      apply Within.bind (Within.record trivial)
      intro _
      exact Within.pure _

/-- Every call for an operation belongs to the tier of the operation. -/
theorem IsRouted.within_perform
    (routed : provider.IsRouted)
    (operation : Operation) :
    (provider.perform operation).Within (provider.OwnsAt operation.tier) fun _ => True := by
  cases operation with
  | balances address tier =>
      apply Within.bind
      · exact (provider.within_balances address tier).widen fun _ => routed.ownsAt
      · intro answered
        exact Within.pure _
  | gasPrice tier =>
      apply Within.bind
      · exact (provider.within_gasPrice tier).widen fun _ => routed.ownsAt
      · intro answered
        exact Within.pure _
  | estimateGas transaction tier =>
      apply Within.bind
      · exact (provider.within_estimateGas transaction tier).widen fun _ => routed.ownsAt
      · intro answered
        exact Within.pure _
  | callMethod method params tier =>
      apply Within.bind (Within.attempt (provider.within_callMethod method params tier))
      intro answered
      exact Within.pure _
  | checkHealth tier =>
      apply Within.bind (provider.within_checkHealth tier)
      intro isWell
      exact Within.pure _

/-! ## Runs of operations -/

/-- All calls of a run are made for its operations, each at the tier of the operation. -/
structure Run.IsConfined
    (run : Run)
    (origin : Provider)
    (log : Log)
    (operations : List Operation) :
    Prop where
  operations : run.served.map (·.operation) = operations
  calls : run.log.calls = log.calls ++ run.served.flatMap (·.calls)
  owned : ∀ served ∈ run.served, ∀ call ∈ served.calls,
    origin.OwnsAt served.operation.tier call
  endpoints : ∀ tier backend kept,
    run.provider.backendOf tier = .ok (backend, kept) →
      origin.baseUrl tier = .ok backend.endpoint

variable {network : Network} {log : Log}

/-- One operation adds calls of its tier to the log. -/
theorem IsRouted.perform
    (routed : provider.IsRouted)
    (operation : Operation)
    (network : Network)
    (log : Log) :
    ∃ calls,
      ((provider.perform operation).run network log).2.calls = log.calls ++ calls ∧
        ∀ call ∈ calls, provider.OwnsAt operation.tier call := by
  rcases (routed.within_perform operation).exists_added network log with
    ⟨calls, _, added, owned, -⟩
  exact ⟨calls, congrArg Log.calls added, owned⟩

/-- The invariant of a run: the provider stays routed and as it was built. -/
theorem IsRouted.isConfined_serve
    (routed : provider.IsRouted)
    (network : Network)
    (log : Log)
    (operations : List Operation) :
    (provider.serve network log operations).IsConfined provider log operations := by
  induction operations generalizing provider log with
  | nil =>
      refine ⟨rfl, (List.append_nil _).symm, ?_, ?_⟩
      · intro served member
        cases member
      · intro tier backend kept found
        exact routed.baseUrl_eq (routed.backendOf found).1
  | cons operation rest induction =>
      rcases routed.perform operation network log with ⟨calls, added, owned⟩
      have becomes := (provider.performs_getD operation network log).becomes
      have alike := becomes.bare_eq
      have following := induction (routed.becomes becomes)
        ((provider.perform operation).run network log).2
      refine ⟨?_, ?_, ?_, ?_⟩
      · exact congrArg (operation :: ·) following.operations
      · show (serve _ network _ rest).log.calls = _
        rw [following.calls, serve, List.flatMap_cons, added, List.drop_left, List.append_assoc]
      · intro served member call made
        rcases List.mem_cons.mp member with rfl | later
        · rw [added, List.drop_left] at made
          exact owned call made
        · have owns := following.owned served later call made
          rwa [ownsAt_congr alike] at owns
      · intro tier backend kept found
        rw [← baseUrl_congr alike]
        exact following.endpoints tier backend kept found

/--
In every run of operations, in any order over the tiers, each call for a tier goes to the
endpoint of the tier, or asks the indexer for a page at the network of the tier and with its
credential; and all backends that are kept send their calls to the endpoints of their tiers.
-/
theorem calls_confined
    {registry : Registry}
    {chain : ChainId}
    {services : List Service}
    (built : registry.build chain services = .ok provider)
    (operations : List Operation)
    (network : Network)
    (log : Log) :
    (provider.serve network log operations).IsConfined provider log operations :=
  (isRouted_build built).isConfined_serve network log operations

/-- A registry with access to the indexer for one network alone. -/
def mixedRegistry : Registry :=
  .make ⟨[("ALCHEMY_API_KEY_ETH_MAINNET", "key")]⟩ true .standard .standard

/-- A provider whose tiers are bound to different services. -/
def mixedProvider : Provider :=
  .make 0 (.ofId .ethereum) mixedRegistry.settings ⟨.evm, true⟩ .standard true
    (Registry.candidate (.ofId .ethereum) .alchemy)
    [Registry.candidate (.ofId .ethereum) .rpc]

/-- Both tiers are asked in turn, over endpoints that have nothing in common. -/
theorem calls_confined_mixed :
    mixedRegistry.build .ethereum [.alchemy, .rpc] = .ok mixedProvider ∧
      mixedProvider.baseUrl .mainnet = .ok "https://eth-mainnet.g.alchemy.com/v2/key" ∧
        mixedProvider.baseUrl .testnet = .ok "https://eth-sepolia.public.blastapi.io" ∧
          (mixedProvider.serve (fun _ _ => .silent) .empty
              [.gasPrice (.text "testnet"), .balances (.text "0x1") (.text "mainnet"),
                .checkHealth (.text "testnet")]).IsConfined
            mixedProvider .empty
            [.gasPrice (.text "testnet"), .balances (.text "0x1") (.text "mainnet"),
              .checkHealth (.text "testnet")] :=
  have built : mixedRegistry.build .ethereum [.alchemy, .rpc] = .ok mixedProvider := rfl
  ⟨built, rfl, rfl, calls_confined built _ _ _⟩

end Holdings.Provider
