import Holdings.Proofs.Provider.LifeCycle
import Holdings.Proofs.Provider.Routing

/-!
# Usable tiers

What makes a source fit for a tier when routes are chosen is all that is needed later: the
network that its address is made of, and the key that its backend is opened with.  So a tier
with a route has a key, an endpoint and a backend, whatever happened to the provider before;
one without has none of them, for want of configuration.
-/

namespace Holdings

/-! ## Sources that offer a credential -/

namespace Source

variable {source : Source} {settings : Settings} {tier : Tier} {credential : String}

theorem Offers.exists_network
    (offers : source.Offers settings tier credential)
    (indexed : source.service = .alchemy) :
    ∃ network, source.network tier = .ok network := by
  rcases offers.serves indexed with ⟨network, known, notEmpty⟩
  refine ⟨network, ?_⟩
  rw [Source.network, network?_eq_some_iff.2 ⟨known, notEmpty⟩]

theorem Offers.exists_baseUrl
    (offers : source.Offers settings tier credential) :
    ∃ url, source.baseUrl tier credential = .ok url := by
  unfold baseUrl
  cases served : source.service with
  | alchemy =>
      rcases offers.exists_network served with ⟨network, known⟩
      rw [known]
      exact ⟨_, rfl⟩
  | quicknode =>
      exact ⟨credential, rfl⟩
  | rpc =>
      exact ⟨credential, rfl⟩

/-- Nothing stands in the way of the backend of a source with the credential that it offers. -/
theorem Offers.exists_backend
    (offers : source.Offers settings tier credential)
    (family : Family) :
    ∃ backend,
      Builder.ofService family source.service source tier credential = .ok backend := by
  rcases offers.exists_baseUrl with ⟨url, addressed⟩
  have node (listings : Bool) :
      ∃ backend, Builder.evmNode listings source tier credential = .ok backend := by
    rw [Builder.evmNode, addressed]
    exact ⟨_, rfl⟩
  cases family with
  | evm =>
      cases served : source.service with
      | alchemy =>
          rcases offers.exists_network served with ⟨network, known⟩
          simp only [Builder.ofService, Builder.indexer, served]
          rw [known, Outcome.ok_bind, Evm.Alchemy.open?, if_neg offers.ne_empty]
          exact ⟨_, rfl⟩
      | quicknode =>
          exact node true
      | rpc =>
          exact node false
  | solana =>
      simp only [Builder.ofService]
      rw [Builder.solanaNode, addressed]
      exact ⟨_, rfl⟩

end Source

namespace Provider

open Fetch

/-! ## What a tier is good for -/

/-- A tier with a key that is not empty, an endpoint and a backend. -/
inductive IsUsable
    (provider : Provider)
    (tier : Tier) :
    Prop where
  | opened
      {key url : String}
      {backend : Backend}
      {later : Provider}
      (notEmpty : key ≠ "")
      (hasKey : provider.apiKey tier = .ok key)
      (hasUrl : provider.baseUrl tier = .ok url)
      (hasEndpoint : provider.rpcEndpoint tier = .ok url)
      (hasBackend : provider.backendOf tier = .ok (backend, later)) :
      IsUsable provider tier

/-- A tier for which everything is refused with a fault of configuration that names the chain. -/
inductive IsUnconfigured
    (provider : Provider)
    (tier : Tier) :
    Prop where
  | refused
      {fault : Fault}
      (isConfiguration : fault.kind = .configuration)
      (namesChain : fault.chain? = some provider.chain.id.name)
      (noKey : provider.apiKey tier = .error fault)
      (noUrl : provider.baseUrl tier = .error fault)
      (noEndpoint : provider.rpcEndpoint tier = .error fault)
      (noBackend : provider.backendOf tier = .error fault) :
      IsUnconfigured provider tier

/-- The tiers of a provider can be used or lack configuration, and its state tells which. -/
structure HasUsableTiers
    (provider : Provider) :
    Prop where
  each : ∀ tier, provider.IsUsable tier ∨ provider.IsUnconfigured tier
  supported : provider.isSupported = true ↔ ∃ tier, provider.IsUsable tier
  configured : provider.state ≠ .unconfigured ↔ ∃ tier, provider.IsUsable tier

/--
A provider that passes calls on, whose routes open sources that offer their credentials, and that
has backends for tiers with a route only.
-/
structure IsBound
    (settings : Settings)
    (provider : Provider) :
    Prop where
  exposesCalls : provider.exposesCalls = true
  offers : ∀ tier route, provider.routes.get tier = some route →
    route.source.Offers settings tier route.credential
  builds : ∀ tier route, provider.routes.get tier = some route →
    route.build = .ofService provider.chain.family route.source.service
  backends : ∀ tier, (provider.backends.get tier).isSome → (provider.routes.get tier).isSome

namespace IsBound

variable {settings : Settings} {provider : Provider} {tier : Tier}

theorem isUsable_of_route
    (bound : provider.IsBound settings)
    {route : Route}
    (routed : provider.routes.get tier = some route) :
    provider.IsUsable tier := by
  have found : provider.route tier = .ok route := route_eq_ok.2 routed
  have offers := bound.offers tier route routed
  rcases offers.exists_baseUrl with ⟨url, addressed⟩
  have hasUrl : provider.baseUrl tier = .ok url := by
    rw [baseUrl_of_route found, addressed]
  have hasBackend : ∃ held, provider.backendOf tier = .ok held := by
    cases kept : provider.backends.get tier with
    | some backend =>
        exact ⟨_, backendOf_of_some kept⟩
    | none =>
        rcases offers.exists_backend provider.chain.family with ⟨backend, built⟩
        rw [backendOf_of_none kept, opens, found, Outcome.ok_bind,
          bound.builds tier route routed, built]
        exact ⟨_, rfl⟩
  rcases hasBackend with ⟨⟨backend, later⟩, held⟩
  refine .opened offers.ne_empty (apiKey_of_route found) hasUrl ?_ held
  rw [rpcEndpoint, if_pos bound.exposesCalls, hasUrl]

theorem isUnconfigured_of_none
    (bound : provider.IsBound settings)
    (unrouted : provider.routes.get tier = none) :
    provider.IsUnconfigured tier := by
  have missing := route_of_none unrouted
  have noUrl := baseUrl_of_error missing
  have noBackend : provider.backends.get tier = none := by
    rw [← Option.not_isSome_iff_eq_none]
    intro kept
    have routed := bound.backends tier kept
    rw [unrouted] at routed
    cases routed
  refine .refused rfl rfl (apiKey_of_error missing) noUrl ?_ ?_
  · rw [rpcEndpoint, if_pos bound.exposesCalls, noUrl]
  · rw [backendOf_of_none noBackend, opens, missing]
    rfl

theorem isUsable_iff
    (bound : provider.IsBound settings) :
    provider.IsUsable tier ↔ (provider.routes.get tier).isSome := by
  constructor
  · rintro ⟨-, hasKey, -⟩
    rcases Outcome.bind_eq_ok.1 hasKey with ⟨route, found, -⟩
    rw [route_eq_ok.1 found]
    rfl
  · intro routed
    rcases Option.isSome_iff_exists.1 routed with ⟨route, present⟩
    exact bound.isUsable_of_route present

theorem hasUsableTiers
    (bound : provider.IsBound settings) :
    provider.HasUsableTiers := by
  have supported : provider.isSupported = true ↔ ∃ tier, provider.IsUsable tier := by
    simp only [isSupported_iff, bound.isUsable_iff]
  constructor
  · intro tier
    cases routed : provider.routes.get tier with
    | some route =>
        exact .inl (bound.isUsable_of_route routed)
    | none =>
        exact .inr (bound.isUnconfigured_of_none routed)
  · exact supported
  · have ready (stands : provider.hasBackend = true) : provider.isSupported = true := by
      rcases (hasBackend_iff provider).1 stands with ⟨tier, kept⟩
      exact (isSupported_iff provider).2 ⟨tier, bound.backends tier kept⟩
    rw [← supported, Ne, state_eq_unconfigured_iff]
    tauto

theorem keep
    (bound : provider.IsBound settings)
    (routed : (provider.routes.get tier).isSome)
    (backend : Backend) :
    (provider.keep tier backend).IsBound settings := by
  refine ⟨bound.exposesCalls, bound.offers, bound.builds, ?_⟩
  intro other stands
  rw [backends_keep] at stands
  split at stands
  · next same =>
      subst same
      exact routed
  · exact bound.backends other stands

end IsBound

/-! ## A life with the same builders -/

/-- The builders that the routes of a provider have. -/
def builders
    (provider : Provider)
    (tier : Tier) :
    Builder :=
  ((provider.routes.get tier).map Route.build).getD default

theorem withBuilders_builders
    (provider : Provider) :
    provider.withBuilders provider.builders = provider := by
  have same (tier : Tier) :
      ((provider.routes.get tier).map fun route =>
          { route with build := provider.builders tier }) = provider.routes.get tier := by
    cases routed : provider.routes.get tier with
    | none =>
        rfl
    | some route =>
        simp [builders, routed]
  rw [withBuilders, funext same]
  rfl

/-- What a host wants, and what the network answers meanwhile. -/
structure Deed where
  network : Network
  action : Action

/-- A step with the builders that there are. -/
def Moment.step
    (now : Moment)
    (deed : Deed) :
    Step :=
  ⟨now.provider.builders, deed.network, deed.action⟩

/-- The moment after some deeds, all with the builders that there were at first. -/
def Moment.through
    (now : Moment)
    (deeds : List Deed) :
    Moment :=
  deeds.foldl (fun now deed => now.next (now.step deed)) now

theorem IsBound.next
    {settings : Settings}
    {now : Moment}
    (bound : now.provider.IsBound settings)
    (deed : Deed) :
    (now.next (now.step deed)).provider.IsBound settings := by
  have passes := passes now (now.step deed)
  have same : now.provider.withBuilders (now.step deed).builders = now.provider :=
    withBuilders_builders now.provider
  generalize (now.next (now.step deed)).provider = later at passes ⊢
  generalize now.called (now.step deed) = calls at passes
  cases passes with
  | unneeded idle =>
      rw [same]
      exact bound
  | unrouted takes missing unrouted =>
      rw [same]
      exact bound
  | failed takes missing failed =>
      rw [same]
      exact bound
  | built takes missing routed opened kept =>
      rw [same]
      exact bound.keep routed _
  | @kept tier backend last takes standing kept =>
      rw [same]
      refine bound.keep (bound.backends tier ?_) _
      rw [standing]
      rfl

theorem IsBound.through
    {settings : Settings}
    {now : Moment}
    (bound : now.provider.IsBound settings)
    (deeds : List Deed) :
    (now.through deeds).provider.IsBound settings := by
  induction deeds generalizing now with
  | nil =>
      exact bound
  | cons deed rest induction =>
      exact induction (bound.next deed)

theorem isBound_make
    (number : Nat)
    (chain : Chain)
    (settings : Settings)
    (rendering : Rendering)
    (transport : Transport)
    (first : Service)
    (rest : List Service) :
    (make number chain settings rendering transport true (Registry.candidate chain first)
      (rest.map (Registry.candidate chain))).IsBound settings := by
  have bound (tier : Tier) (route : Route)
      (routed : (make number chain settings rendering transport true
        (Registry.candidate chain first) (rest.map (Registry.candidate chain))).routes.get tier =
          some route) :
      route.source.Offers settings tier route.credential ∧
        route.build = .ofService chain.family route.source.service := by
    rw [make, ByTier.get_ofFn, ← List.map_cons, findSome?_route?_eq_some_iff] at routed
    rcases routed with @⟨passed, others, candidate, credential, order, refused, offers⟩
    refine ⟨offers, ?_⟩
    have member : candidate ∈ (first :: rest).map (Registry.candidate chain) := by
      rw [order]
      exact List.mem_append_right _ List.mem_cons_self
    rcases exists_service_of_mem member with ⟨service, rfl⟩
    rfl
  constructor
  · rfl
  · exact fun tier route routed => (bound tier route routed).1
  · exact fun tier route routed => (bound tier route routed).2
  · intro tier stands
    cases tier <;> cases stands

/--
A provider over the sources of its chain, with the builders of its family, has tiers that can be
used or lack configuration, when it is new and after anything that a host does with it.
-/
theorem hasUsableTiers_through_make
    (number : Nat)
    (chain : Chain)
    (settings : Settings)
    (rendering : Rendering)
    (transport : Transport)
    (first : Service)
    (rest : List Service)
    (log : Log)
    (deeds : List Deed) :
    HasUsableTiers ((⟨make number chain settings rendering transport true
      (Registry.candidate chain first) (rest.map (Registry.candidate chain)), log⟩ :
        Moment).through deeds).provider := by
  apply IsBound.hasUsableTiers
  apply IsBound.through
  exact isBound_make number chain settings rendering transport first rest

end Provider

end Holdings
