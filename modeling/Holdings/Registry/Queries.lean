import Holdings.Registry.Basic
import Holdings.Schema.Models

/-!
# Questions to a registry

Each question names a chain by a key.  The provider that answers it is put back
into the registry with what it has built and found.
-/

namespace Holdings

/-- What is told about a chain in a list of chains. -/
structure ChainSummary where
  chain : Chain
  isSupported : Bool
deriving Inhabited

/-- The public form of a summary. -/
def ChainSummary.toJson
    (summary : ChainSummary) :
    Json :=
  let config := summary.chain.config
  .object
    [("id", .text summary.chain.id.name),
      ("family", .text summary.chain.family.name),
      ("chainId", .int config.chainId),
      ("name", .text config.name),
      ("nativeSymbol", .text config.nativeSymbol),
      ("nativeDecimals", .int config.nativeDecimals),
      ("testnetChainId", (config.testnetChainId.map Json.int).getD .null),
      ("testnetName", Json.ofText? config.testnetName),
      ("supported", .bool summary.isSupported)]

namespace Registry

/-- Asks the provider of a key and puts back what it has become. -/
def withProvider
    {α : Type}
    (registry : Registry)
    (key : ChainKey)
    (question : Provider → Fetch (Except Fault α × Provider)) :
    Fetch (Except Fault α × Registry) :=
  match registry.resolve key, key.name with
  | .ok (provider, resolved), .ok name => do
    let (outcome, later) ← question provider
    return (outcome, resolved.put name later)
  | .error fault, _ => return (.error fault, registry)
  | _, .error fault => return (.error fault, registry)

/-- The balances of a wallet. -/
def balances
    (registry : Registry)
    (key : ChainKey)
    (address tier : Json) :
    Fetch (Except Fault Balances × Registry) :=
  registry.withProvider key fun provider => do
    let (balances, later) ← provider.balances address tier
    return (.ok balances, later)

/-- The price of gas. -/
def gasPrice
    (registry : Registry)
    (key : ChainKey)
    (tier : Json) :
    Fetch (Except Fault String × Registry) :=
  registry.withProvider key fun provider => provider.gasPrice tier

/-- What a transaction is estimated to need. -/
def estimateGas
    (registry : Registry)
    (key : ChainKey)
    (transaction tier : Json) :
    Fetch (Except Fault String × Registry) :=
  registry.withProvider key fun provider => provider.estimateGas transaction tier

/-- Asks a provider that passes calls on; others are refused. -/
def withExposed
    {α : Type}
    (registry : Registry)
    (key : ChainKey)
    (question : Provider → Fetch α) :
    Fetch (Except Fault α × Registry) :=
  registry.withProvider key fun provider => do
    if provider.exposesCalls then
      return (← (question provider).attempt, provider)
    else
      return (.error (.noRawCalls key.shown), provider)

/-- Passes a call on to the endpoint of a tier. -/
def callMethod
    (registry : Registry)
    (key : ChainKey)
    (method : String)
    (params tier : Json) :
    Fetch (Except Fault Json × Registry) :=
  registry.withExposed key fun provider => provider.callMethod method params tier

/-- Whether the endpoint of a tier is well. -/
def checkHealth
    (registry : Registry)
    (key : ChainKey)
    (tier : Json) :
    Fetch (Except Fault Bool × Registry) :=
  registry.withExposed key fun provider => provider.checkHealth tier

/-- What is told about the chain of a key. -/
def chainConfig
    (registry : Registry)
    (key : ChainKey) :
    Except Fault (ChainConfig × Registry) := do
  let (provider, later) ← registry.resolve key
  return (provider.chain.config, later)

/-- Summaries of some chains; each one is resolved on the way. -/
def summarize :
    List Chain → Registry → Except Fault (List ChainSummary) × Registry
  | [], registry => (.ok [], registry)
  | chain :: rest, registry =>
    match registry.isSupported (.member chain.id) with
    | .error fault => (.error fault, registry)
    | .ok (isSupported, later) =>
      let (summaries, last) := summarize rest later
      (summaries.map (⟨chain, isSupported⟩ :: ·), last)

/-- Summaries of all chains that are served, in the order of the table. -/
def listChains
    (registry : Registry) :
    Except Fault (List ChainSummary) × Registry :=
  summarize
    (Chain.table.filter fun chain => (registry.preferences.lookup chain.id).isSome)
    registry

end Registry

end Holdings
