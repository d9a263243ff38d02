import Holdings.Proofs.Backend.Balances
import Holdings.Proofs.Backend.Questions

/-!
# Where backends send their questions

Fees and estimates are asked for at the same addresses as balances.  The address
for calls is the endpoint that the source of the backend opens with its
credential, whether it was taken from there or put together by the indexer
itself.
-/

namespace Holdings

open Fetch

variable {events : Event → Prop}

/-! ## Calls -/

namespace Backend

theorem reaches_of_isSentTo
    {transport : Transport}
    {client : Evm.Alchemy}
    {call : Call}
    (sent : call.IsSentTo .client client.rpcUrl) :
    Reaches transport (.indexer client) call :=
  .inl sent

/-- Whatever fees are asked for, a backend makes calls to its own addresses only. -/
theorem within_fees
    (backend : Backend)
    (transport : Transport) :
    (backend.fees transport).Within (Reaches transport backend) events := by
  cases backend with
  | indexer client =>
      show client.fees.Within _ _
      rw [client.fees_eq]
      apply Within.bind
      · exact (client.within_nodeQuantity _ _).widen fun _ isRpc =>
          reaches_of_isSentTo isRpc.isSentTo
      · intro price
        exact (client.within_feesAt price).widen fun _ => reaches_of_isSentTo
  | evmNode node =>
      show (node.fees transport).Within _ _
      rw [node.fees_eq]
      apply Within.bind
      · exact (node.within_quantity transport _).widen fun _ => Call.IsRpc.isSentTo
      · exact node.within_feesAt transport
  | solanaNode node cache =>
      apply Within.bind
      · exact (transport.within_rpc _ _ _).widen fun _ => Call.IsRpc.isSentTo
      · intro result
        apply Within.lift_bind
        intro priority
        apply Within.lift_bind
        intro price
        apply Within.lift_bind
        intro priorityText
        exact Within.pure _

theorem within_askEstimate
    (backend : Backend)
    (transport : Transport)
    (chain : ChainId)
    (params : List Json) :
    (backend.askEstimate transport chain params).Within (Reaches transport backend) events := by
  cases backend with
  | indexer client =>
      apply Within.bind
      · exact (client.within_nodeQuantity _ _).widen fun _ isRpc =>
          reaches_of_isSentTo isRpc.isSentTo
      · intro gas
        exact Within.lift _
  | evmNode node =>
      apply Within.bind
      · exact (transport.within_rpc _ _ _).widen fun _ => Call.IsRpc.isSentTo
      · intro result
        apply Within.lift_bind
        intro gas
        exact Within.lift _
  | solanaNode node cache =>
      apply Within.bind
      · exact (transport.within_rpc _ _ _).widen fun _ => Call.IsRpc.isSentTo
      · intro result
        exact Within.lift _

/-- Whatever is estimated, a backend makes calls to its own addresses only. -/
theorem within_estimate
    (backend : Backend)
    (transport : Transport)
    (chain : ChainId)
    (transaction : Json) :
    (backend.estimate transport chain transaction).Within
      (Reaches transport backend) events := by
  rw [estimate_eq]
  apply Within.lift_bind
  intro params
  exact backend.within_askEstimate transport chain params

/-! ## Endpoints -/

/-- Where a backend sends its calls. -/
def endpoint : Backend → String
  | .indexer client => client.rpcUrl
  | .evmNode node => node.endpoint
  | .solanaNode node _ => node.endpoint

@[simp]
theorem endpoint_withoutCache
    (backend : Backend) :
    backend.withoutCache.endpoint = backend.endpoint := by
  cases backend <;> rfl

/-- A call that a backend makes goes to its endpoint, unless it asks the indexer for a page. -/
theorem Reaches.url_eq
    {transport : Transport}
    {backend : Backend}
    {channel : Channel}
    {url method : String}
    {params : Json}
    (reached : Reaches transport backend (.rpc channel url method params)) :
    url = backend.endpoint := by
  cases backend with
  | indexer client =>
      rcases reached with sent | isPage
      · exact sent.2
      · exact isPage.elim
  | evmNode node =>
      exact reached.2
  | solanaNode node cache =>
      exact reached.2

/-- Only an indexer is asked for pages. -/
theorem Reaches.exists_client
    {transport : Transport}
    {backend : Backend}
    {url : String}
    {query : Json}
    (reached : Reaches transport backend (.page url query)) :
    ∃ client : Evm.Alchemy, backend = .indexer client ∧ url = client.nftUrl := by
  cases backend with
  | indexer client =>
      rcases reached with sent | isPage
      · exact sent.elim
      · exact ⟨client, rfl, isPage⟩
  | evmNode node =>
      exact reached.elim
  | solanaNode node cache =>
      exact reached.elim

end Backend

/-! ## What builders put into backends -/

namespace Builder

variable {family : Family} {source : Source} {tier : Tier} {credential : String}

/-- What a source opens for a family of chains with a credential. -/
inductive Opens
    (source : Source)
    (tier : Tier)
    (credential : String) :
    Family → Backend → Prop where
  | indexer
      {network : String}
      (isIndexer : source.service = .alchemy)
      (named : source.network tier = .ok network) :
      Opens source tier credential .evm (.indexer ⟨network, credential⟩)
  | evmNode
      {url : String}
      {hasListings : Bool}
      (isNode : source.service ≠ .alchemy)
      (opened : source.baseUrl tier credential = .ok url) :
      Opens source tier credential .evm (.evmNode ⟨url, hasListings⟩)
  | solanaNode
      {url : String}
      (opened : source.baseUrl tier credential = .ok url) :
      Opens source tier credential .solana (.solanaNode (.standard url) .empty)

theorem opens_ofService
    {backend : Backend}
    (built : ofService family source.service source tier credential = .ok backend) :
    Opens source tier credential family backend := by
  have node {listings : Bool}
      (isNode : source.service ≠ .alchemy)
      (built : evmNode listings source tier credential = .ok backend) :
      Opens source tier credential .evm backend := by
    rcases Outcome.bind_eq_ok.1 built with ⟨url, opened, same⟩
    cases same
    exact .evmNode isNode opened
  cases family with
  | evm =>
      rcases source with ⟨service, chain⟩
      cases service with
      | alchemy =>
          rcases Outcome.bind_eq_ok.1 built with ⟨network, named, rest⟩
          rcases Outcome.bind_eq_ok.1 rest with ⟨client, opened, same⟩
          cases same
          unfold Evm.Alchemy.open? at opened
          split at opened
          · cases opened
          · cases opened
            exact .indexer rfl named
      | quicknode =>
          exact node nofun built
      | rpc =>
          exact node nofun built
  | solana =>
      rcases Outcome.bind_eq_ok.1 built with ⟨url, opened, same⟩
      cases same
      exact .solanaNode opened

/-- A backend sends its calls to the endpoint that the source opens. -/
theorem Opens.baseUrl_eq
    {backend : Backend}
    (opens : Opens source tier credential family backend) :
    source.baseUrl tier credential = .ok backend.endpoint := by
  cases opens with
  | indexer isIndexer named =>
      rw [Source.baseUrl, isIndexer, named]
      rfl
  | evmNode _ opened =>
      exact opened
  | solanaNode opened =>
      exact opened

end Builder

/-! ## The endpoint of a tier -/

namespace Provider

variable {provider : Provider} {tier : Tier} {backend : Backend}

theorem IsRouted.opens_of_routes
    (routed : provider.IsRouted)
    (belongs : provider.Routes tier backend) :
    ∃ route,
      provider.route tier = .ok route ∧
        route.source.chain = provider.chain ∧
          Builder.Opens route.source tier route.credential provider.chain.family
            backend.withoutCache := by
  rcases belongs with ⟨route, found, built⟩
  rcases routed.routes tier route found with ⟨sameChain, sameBuild, -⟩
  rw [sameBuild] at built
  exact ⟨route, route_eq_ok.2 found, sameChain, Builder.opens_ofService built⟩

/-- The backend of a tier sends its calls to the endpoint of the tier. -/
theorem IsRouted.baseUrl_eq
    (routed : provider.IsRouted)
    (belongs : provider.Routes tier backend) :
    provider.baseUrl tier = .ok backend.endpoint := by
  rcases routed.opens_of_routes belongs with ⟨route, found, -, opens⟩
  rw [Provider.baseUrl, found]
  exact opens.baseUrl_eq.trans (congrArg Except.ok backend.endpoint_withoutCache)

end Provider

end Holdings
