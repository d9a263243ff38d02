import Holdings.Backend.Basic
import Holdings.Balances.Rendering
import Holdings.Chain.Key
import Holdings.Source

/-!
# Providers

A provider answers for one chain.  When it is made, each tier is bound to the
first candidate source that serves the tier and has a credential for it.  The
backend of a tier is built when it is first needed, and kept.  Balances never
fail: whatever goes wrong is recorded, and the wallet is reported as empty.
-/

namespace Holdings

/-- Builds the backend of a tier on a source with its credential. -/
abbrev Builder := Source → Tier → String → Except Fault Backend

namespace Builder

/-- An indexer needs the one source that knows its networks. -/
def indexer : Builder := fun source tier credential => do
  match source.service with
  | .alchemy => return .indexer (← Evm.Alchemy.open? (← source.network tier) credential)
  | service => throw (.wrongSource service)

/-- A node of an EVM chain, with or without the methods that list what a wallet holds. -/
def evmNode
    (hasListings : Bool) :
    Builder := fun source tier credential => do
  return .evmNode ⟨← source.baseUrl tier credential, hasListings⟩

/-- A node of Solana, which has found nothing yet. -/
def solanaNode : Builder := fun source tier credential => do
  return .solanaNode (.standard (← source.baseUrl tier credential)) .empty

/-- The builder of a family of chains for a service. -/
def ofService : Family → Service → Builder
  | .evm, .alchemy => indexer
  | .evm, .quicknode => evmNode true
  | .evm, .rpc => evmNode false
  | .solana, _ => solanaNode

end Builder

/-- A source that may serve a tier, with the builder of its backend. -/
structure Candidate where
  source : Source
  build : Builder
deriving Inhabited

/-- What a tier is bound to. -/
structure Route where
  source : Source
  build : Builder
  credential : String
deriving Inhabited

/-- The route of a tier over a candidate, if it serves the tier with a credential. -/
def Candidate.route?
    (candidate : Candidate)
    (settings : Settings)
    (tier : Tier) :
    Option Route :=
  if candidate.source.serves tier then
    ((candidate.source.credential settings tier).filter (· ≠ "")).map fun credential =>
      ⟨candidate.source, candidate.build, credential⟩
  else
    none

/-- How far a provider has come. -/
inductive ProviderState where
  | unconfigured
  | configured
  | ready
deriving DecidableEq, Repr

/-- The name of a state. -/
def ProviderState.name : ProviderState → String
  | .unconfigured => "UNCONFIGURED"
  | .configured => "CONFIGURED"
  | .ready => "READY"

/-- What answers for one chain. -/
structure Provider where
  /-- Tells a provider from others of the same chain. -/
  number : Nat
  chain : Chain
  /-- The first candidate, which stands in for a tier without a route. -/
  preferred : Source
  rendering : Rendering
  transport : Transport
  /-- Whether calls of any method may be passed on. -/
  exposesCalls : Bool
  routes : ByTier (Option Route)
  backends : ByTier (Option Backend)
deriving Inhabited

namespace Provider

/-- The provider of a chain over a preferred source and those to fall back on. -/
def make
    (number : Nat)
    (chain : Chain)
    (settings : Settings)
    (rendering : Rendering)
    (transport : Transport)
    (exposesCalls : Bool)
    (preferred : Candidate)
    (fallbacks : List Candidate) :
    Provider where
  number := number
  chain := chain
  preferred := preferred.source
  rendering := rendering
  transport := transport
  exposesCalls := exposesCalls
  routes := .ofFn fun tier =>
    (preferred :: fallbacks).findSome? fun candidate => candidate.route? settings tier
  backends := ⟨none, none⟩

/-- The source of a tier, or the preferred one when the tier has no route. -/
def sourceOf
    (provider : Provider)
    (tier : Tier) :
    Source :=
  match provider.routes.get tier with
  | some route => route.source
  | none => provider.preferred

/-- The name of a provider is that of its source for the main network. -/
def name
    (provider : Provider) :
    String :=
  (provider.sourceOf .mainnet).name

/-- Whether some tier has a route. -/
def isSupported
    (provider : Provider) :
    Bool :=
  provider.routes.mainnet.isSome || provider.routes.testnet.isSome

/-- Whether some backend was built. -/
def hasBackend
    (provider : Provider) :
    Bool :=
  provider.backends.mainnet.isSome || provider.backends.testnet.isSome

/-- How far the provider has come. -/
def state
    (provider : Provider) :
    ProviderState :=
  if provider.hasBackend then .ready
  else if provider.isSupported then .configured
  else .unconfigured

/-- The route of a tier. -/
def route
    (provider : Provider)
    (tier : Tier) :
    Except Fault Route :=
  match provider.routes.get tier with
  | some route => .ok route
  | none => .error (.noDataSource provider.chain.id tier)

/-- The credential of a tier. -/
def apiKey
    (provider : Provider)
    (tier : Tier) :
    Except Fault String := do
  return (← provider.route tier).credential

/-- The endpoint of a tier. -/
def baseUrl
    (provider : Provider)
    (tier : Tier) :
    Except Fault String := do
  let route ← provider.route tier
  route.source.baseUrl tier route.credential

/-- The endpoint to which calls of any method are passed on, if they are. -/
def rpcEndpoint
    (provider : Provider)
    (tier : Tier) :
    Except Fault String :=
  if provider.exposesCalls then provider.baseUrl tier else .error .noMembers

/-- Keeps the backend of a tier. -/
def keep
    (provider : Provider)
    (tier : Tier)
    (backend : Backend) :
    Provider :=
  { provider with backends := provider.backends.set tier (some backend) }

/-- The backend of a tier: the one that is kept, or a new one, which is kept from then on. -/
def backendOf
    (provider : Provider)
    (tier : Tier) :
    Except Fault (Backend × Provider) :=
  match provider.backends.get tier with
  | some backend => .ok (backend, provider)
  | none => do
    let route ← provider.route tier
    let backend ← route.build route.source tier route.credential
    return (backend, provider.keep tier backend)

/-- Does a job with the backend of a tier; what was built stays, also when the job fails. -/
def withBackend
    {α : Type}
    (provider : Provider)
    (tier : Tier)
    (job : Backend → Fetch (α × Backend)) :
    Fetch (Except Fault α × Provider) :=
  match provider.backendOf tier with
  | .error fault => return (.error fault, provider)
  | .ok (backend, built) => do
    match ← (job backend).attempt with
    | .ok (value, kept) => return (.ok value, built.keep tier kept)
    | .error fault => return (.error fault, built)

/-- A job that leaves the backend as it is. -/
def unchanged
    {α : Type}
    (job : Backend → Fetch α)
    (backend : Backend) :
    Fetch (α × Backend) := do
  return (← job backend, backend)

/-- The event of an operation that failed. -/
def failureEvent
    (provider : Provider)
    (severity : Severity)
    (tier : Json)
    (operation : String)
    (fault : Fault) :
    Event :=
  .ofError severity provider.chain.id tier operation fault fault.told

/-- The balances of a wallet, or the fault that stands in their way. -/
def tryBalances
    (provider : Provider)
    (address tier : Json) :
    Fetch (Except Fault Balances × Provider) :=
  match Tier.read tier with
  | .error fault => return (.error fault, provider)
  | .ok network => do
    let (outcome, later) ← provider.withBackend network fun backend =>
      backend.balances provider.transport provider.chain.id address network
    return (outcome >>= fun payload => provider.rendering.balances payload provider.chain.config,
      later)

/-- The balances of a wallet; a failure is recorded and reported as an empty wallet. -/
def balances
    (provider : Provider)
    (address tier : Json) :
    Fetch (Balances × Provider) := do
  let (outcome, later) ← provider.tryBalances address tier
  match outcome with
  | .ok balances => return (balances, later)
  | .error fault =>
    Fetch.record (provider.failureEvent .error tier "get_balances" fault)
    return (.zero, later)

/-- The price of gas, in the smallest unit. -/
def gasPrice
    (provider : Provider)
    (tier : Json) :
    Fetch (Except Fault String × Provider) :=
  match Tier.read tier with
  | .error fault => return (.error fault, provider)
  | .ok network => do
    let (outcome, later) ← provider.withBackend network
      (unchanged fun backend => backend.fees provider.transport)
    return (outcome >>= Rendering.gasPrice, later)

/-- What a transaction is estimated to need. -/
def estimateGas
    (provider : Provider)
    (transaction tier : Json) :
    Fetch (Except Fault String × Provider) :=
  match Tier.read tier with
  | .error fault => return (.error fault, provider)
  | .ok network =>
    provider.withBackend network
      (unchanged fun backend =>
        backend.estimate provider.transport provider.chain.id transaction)

/-- Passes a call on to the endpoint of a tier. -/
def callMethod
    (provider : Provider)
    (method : String)
    (params tier : Json) :
    Fetch Json := do
  let network ← Tier.read tier
  let endpoint ← provider.baseUrl network
  provider.transport.rpc endpoint method (params.orElse (.array []))

/-- Whether the endpoint of a tier answers the chain's cheap call; a failure is recorded. -/
def checkHealth
    (provider : Provider)
    (tier : Json) :
    Fetch Bool := do
  match ← (provider.callMethod provider.chain.healthMethod (.array []) tier).attempt with
  | .ok _ => return true
  | .error fault =>
    Fetch.record (provider.failureEvent .warning tier "check_health" fault)
    return false

end Provider

end Holdings
