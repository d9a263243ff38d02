import Holdings.Proofs.Backend.Addresses
import Holdings.Proofs.Evm.Envelope
import Holdings.Proofs.Network.Replies
import Holdings.Proofs.Provider.Questions

/-!
# What becomes of a call that fails

Fees, estimates and calls that are passed on each rely on one call.  When this
call fails, so does the question.  Over the transport of a provider this is a
fault of the transport, but the indexer of an EVM chain sends the calls for fees
and estimates through a client of its own, whose faults are never counted as
faults of the transport.
-/

namespace Holdings

open Fetch

variable {network : Network} {log : Log} {limit : String}

/-! ## The client of the indexer -/

namespace Evm.Alchemy

/-- A call that fails comes to a fault of the client, not of the transport. -/
theorem run_nodeCall_of_fails
    {client : Alchemy}
    {method : String}
    {params : List Json}
    (fails : (network log.calls (.rpc .client client.rpcUrl method (.array params))).Fails) :
    ∃ fault grown,
      (client.nodeCall method params).run network log = (.error fault, grown) ∧
        fault.kind ≠ .transport := by
  have sent := client.run_send method params network log
  generalize network log.calls (.rpc .client client.rpcUrl method (.array params)) = reply
    at fails sent
  cases fails with
  | silent =>
      exact ⟨.timedOut, _, run_bind_of_error sent _, nofun⟩
  | refused text =>
      exact ⟨.clientFailed text, _, run_bind_of_error sent _, nofun⟩
  | @value members error envelope =>
      rcases exists_fault_of_error method params envelope.found with ⟨fault, refused⟩
      have called := run_bind_of_ok sent fun envelope =>
        (liftM (readNodeEnvelope method params envelope) : Fetch NodeAnswer)
      rw [run_liftM, refused] at called
      exact ⟨fault, _, called, avoids_readNodeEnvelope method params _ fault refused⟩
  | body accepted read found notNull =>
      exact ⟨.badNodeResponse, _, run_bind_of_error sent _, nofun⟩

end Evm.Alchemy

/-! ## Backends -/

namespace Backend

/-- Whether a backend is an indexer. -/
def isIndexer : Backend → Bool
  | .indexer _ => true
  | _ => false

/-- The call on which the fees of the network rely. -/
def priceCall
    (backend : Backend)
    (transport : Transport) :
    Call :=
  match backend with
  | .indexer client => .rpc .client client.rpcUrl "eth_gasPrice" (.array [])
  | .evmNode node => .rpc transport.channel node.endpoint "eth_gasPrice" (.array [])
  | .solanaNode node _ =>
    .rpc transport.channel node.endpoint "getRecentPrioritizationFees" (.array [])

/-- The call on which an estimate relies, given the parameters that were made ready. -/
def estimateCall
    (backend : Backend)
    (transport : Transport)
    (params : List Json) :
    Call :=
  match backend with
  | .indexer client => .rpc .client client.rpcUrl Evm.estimateMethod (.array params)
  | .evmNode node => .rpc transport.channel node.endpoint "eth_estimateGas" (.array params)
  | .solanaNode node _ =>
    .rpc transport.channel node.endpoint "simulateTransaction" (.array params)

/-- Without a price there are no fees. -/
theorem run_fees_of_fails
    {backend : Backend}
    (fails : (network log.calls (backend.priceCall (.connection limit))).Fails) :
    ∃ fault grown,
      (backend.fees (.connection limit)).run network log = (.error fault, grown) ∧
        (fault.kind = .transport ↔ backend.isIndexer = false) := by
  cases backend with
  | indexer client =>
      rcases Evm.Alchemy.run_nodeCall_of_fails fails with ⟨fault, grown, failed, kind⟩
      have quantity := run_bind_of_error failed fun answer => liftM answer.quantity
      exact ⟨fault, grown, run_bind_of_error quantity client.feesAt, by simp [kind, isIndexer]⟩
  | evmNode node =>
      rcases Transport.run_rpc_of_fails fails with ⟨fault, grown, failed, kind⟩
      have quantity := run_bind_of_error failed fun result =>
        (liftM (Amount.read result) : Fetch Nat)
      exact ⟨fault, grown, run_bind_of_error quantity (node.feesAt _), by simp [kind, isIndexer]⟩
  | solanaNode node cache =>
      rcases Transport.run_rpc_of_fails fails with ⟨fault, grown, failed, kind⟩
      exact ⟨fault, grown, run_bind_of_error failed _, by simp [kind, isIndexer]⟩

theorem run_estimate_of_fails
    {backend : Backend}
    {transaction : Json}
    {params : List Json}
    (ready : backend.prepare transaction = .ok params)
    (fails : (network log.calls (backend.estimateCall (.connection limit) params)).Fails)
    (chain : ChainId) :
    ∃ fault grown,
      (backend.estimate (.connection limit) chain transaction).run network log =
          (.error fault, grown) ∧
        (fault.kind = .transport ↔ backend.isIndexer = false) := by
  rw [estimate_eq, ready, liftM_ok_bind]
  cases backend with
  | indexer client =>
      rcases Evm.Alchemy.run_nodeCall_of_fails fails with ⟨fault, grown, failed, kind⟩
      have quantity := run_bind_of_error failed fun answer => liftM answer.quantity
      exact ⟨fault, grown, run_bind_of_error quantity fun gas => liftM gas.print,
        by simp [kind, isIndexer]⟩
  | evmNode node =>
      rcases Transport.run_rpc_of_fails fails with ⟨fault, grown, failed, kind⟩
      exact ⟨fault, grown, run_bind_of_error failed _, by simp [kind, isIndexer]⟩
  | solanaNode node cache =>
      rcases Transport.run_rpc_of_fails fails with ⟨fault, grown, failed, kind⟩
      exact ⟨fault, grown, run_bind_of_error failed _, by simp [kind, isIndexer]⟩

end Backend

/-! ## Providers -/

namespace Provider

variable {provider built : Provider} {tier : Tier} {backend : Backend}

/-- Whether a tier is bound to the indexer of an EVM chain. -/
def UsesIndexer
    (provider : Provider)
    (tier : Tier) :
    Prop :=
  provider.chain.family = .evm ∧ (provider.sourceOf tier).service = .alchemy

theorem IsRouted.isIndexer_iff
    (routed : provider.IsRouted)
    (belongs : provider.Routes tier backend) :
    backend.isIndexer = true ↔ provider.UsesIndexer tier := by
  have sameKind : backend.withoutCache.isIndexer = backend.isIndexer := by
    cases backend <;> rfl
  rcases routed.opens_of_routes belongs with ⟨route, found, -, opens⟩
  rw [UsesIndexer, sourceOf_of_route found, ← sameKind]
  generalize provider.chain.family = family at opens ⊢
  generalize backend.withoutCache = held at opens ⊢
  cases opens with
  | indexer isIndexer named =>
      simp [Backend.isIndexer, isIndexer]
  | evmNode isNode opened =>
      simp [Backend.isIndexer, isNode]
  | solanaNode opened =>
      simp [Backend.isIndexer]

/-- A job that leaves the backend as it is and fails is the failure of the whole. -/
theorem run_unchanged_of_error
    {α : Type}
    (found : provider.backendOf tier = .ok (backend, built))
    {job : Backend → Fetch α}
    {fault : Fault}
    {grown : Log}
    (failed : (job backend).run network log = (.error fault, grown)) :
    (provider.withBackend tier (unchanged job)).run network log =
      (.ok (.error fault, built), grown) :=
  run_withBackend_of_error found (run_bind_of_error failed _)

/--
What questions at a tier come to when the call fails on which they rely: a fault, which is one of
the transport unless the question goes through the client of an indexer.
-/
structure FailuresAttributed
    (provider : Provider)
    (tier : Tier)
    (backend : Backend)
    (network : Network)
    (log : Log) :
    Prop where
  gasPrice :
    (network log.calls (backend.priceCall provider.transport)).Fails →
      ∃ fault later grown,
        (provider.gasPrice (.text tier.name)).run network log =
            (.ok (.error fault, later), grown) ∧
          (fault.kind = .transport ↔ ¬ provider.UsesIndexer tier)
  estimateGas : ∀ transaction params,
    backend.prepare transaction = .ok params →
      (network log.calls (backend.estimateCall provider.transport params)).Fails →
        ∃ fault later grown,
          (provider.estimateGas transaction (.text tier.name)).run network log =
              (.ok (.error fault, later), grown) ∧
            (fault.kind = .transport ↔ ¬ provider.UsesIndexer tier)
  callMethod : ∀ method params,
    (network log.calls (.rpc provider.transport.channel backend.endpoint method
        (params.orElse (.array [])))).Fails →
      ∃ fault grown,
        (provider.callMethod method params (.text tier.name)).run network log =
            (.error fault, grown) ∧
          fault.kind = .transport

/--
Over a connection, a fault of the transport is what a failed call comes to exactly when the tier
is not bound to the indexer of an EVM chain, and always for calls that are passed on.
-/
theorem transport_fault_iff
    (arises : provider.Arises)
    (connected : provider.transport = .connection limit)
    (found : provider.backendOf tier = .ok (backend, built))
    (network : Network)
    (log : Log) :
    provider.FailuresAttributed tier backend network log := by
  have routed := arises.isRouted
  have belongs := (routed.backendOf found).1
  have otherwise : backend.isIndexer = false ↔ ¬ provider.UsesIndexer tier := by
    rw [← routed.isIndexer_iff belongs, Bool.not_eq_true]
  constructor
  · intro fails
    rw [connected] at fails
    rcases Backend.run_fees_of_fails fails with ⟨fault, grown, failed, kind⟩
    refine ⟨fault, built, grown, ?_, kind.trans otherwise⟩
    rw [← connected] at failed
    rw [Provider.gasPrice, Tier.read_name]
    exact run_bind_of_ok (run_unchanged_of_error found failed) _
  · intro transaction params ready fails
    rw [connected] at fails
    rcases Backend.run_estimate_of_fails ready fails provider.chain.id with
      ⟨fault, grown, failed, kind⟩
    refine ⟨fault, built, grown, ?_, kind.trans otherwise⟩
    rw [← connected] at failed
    rw [Provider.estimateGas, Tier.read_name]
    exact run_unchanged_of_error found failed
  · intro method params fails
    rw [connected] at fails
    rcases Transport.run_rpc_of_fails fails with ⟨fault, grown, failed, kind⟩
    refine ⟨fault, grown, ?_, kind⟩
    rw [← connected] at failed
    rw [callMethod_eq, routed.baseUrl_eq belongs, liftM_ok_bind]
    exact failed

/-- A provider over one service for its chain. -/
def soleProvider
    (service : Service) :
    Provider :=
  .make 0 (.ofId .ethereum) ⟨[("ALCHEMY_API_KEY", "k")]⟩ ⟨.evm, true⟩ .standard true
    (Registry.candidate (.ofId .ethereum) service) []

theorem arises_soleProvider
    (service : Service) :
    (soleProvider service).Arises := by
  have built :
      (Registry.make ⟨[("ALCHEMY_API_KEY", "k")]⟩ true .standard .standard).build
        .ethereum [service] = .ok (soleProvider service) :=
    rfl
  exact .built built

/-- The backend over a bare node. -/
def publicNode : Backend :=
  .evmNode ⟨"https://eth-mainnet.public.blastapi.io", false⟩

/-- A node that never answers. -/
theorem transport_fault_iff_node :
    Reply.silent.Fails ∧
      (soleProvider .rpc).FailuresAttributed .mainnet publicNode (fun _ _ => .silent) .empty := by
  have found :
      (soleProvider .rpc).backendOf .mainnet =
        .ok (publicNode, (soleProvider .rpc).keep .mainnet publicNode) :=
    rfl
  exact ⟨.silent, transport_fault_iff (arises_soleProvider .rpc) rfl found _ _⟩

/-- What the price of gas comes to over a service for the main network. -/
def gasPriceFault
    (service : Service)
    (reply : Reply) :
    Option FaultClass :=
  match (((soleProvider service).gasPrice (.text "mainnet")).run (fun _ _ => reply) .empty).1 with
  | .ok (.error fault, _) => some fault.kind
  | _ => none

/--
Over the indexer, neither a call that is not answered in time nor a missing connection is a fault
of the transport; over a bare node both are.
-/
theorem not_transport_fault_indexer :
    (soleProvider .alchemy).Arises ∧
      (soleProvider .alchemy).transport = .standard ∧
        gasPriceFault .alchemy .silent = some .other ∧
          gasPriceFault .alchemy (.refused "down") = some .other ∧
            gasPriceFault .rpc .silent = some .transport ∧
              gasPriceFault .rpc (.refused "down") = some .transport :=
  ⟨arises_soleProvider .alchemy, rfl, by decide +kernel⟩

end Provider

end Holdings
