import Holdings.Provider

/-!
# The registry of providers

A registry holds one provider under each key.  A chain that is asked for the
first time gets a provider over the sources that are preferred for it; one can
also be put in by hand, in the place of an earlier one.  A provider is put in by
value: one that is put in under two keys is two providers from then on, and what
one of them builds later the other does not have.
-/

namespace Holdings

/-- The sources that are preferred for each chain that is served, in order. -/
abbrev Preferences := List (ChainId × List Service)

/-- The usual preferences: the indexer first, where there is one, and bare nodes last. -/
def Preferences.standard : Preferences :=
  ChainId.all.map fun chain =>
    match chain with
    | .bsc => (chain, [.quicknode, .rpc])
    | _ => (chain, [.alchemy, .quicknode, .rpc])

/-- The providers that are known, with all that is needed to make further ones. -/
structure Registry where
  settings : Settings
  convertUnits : Bool
  transport : Transport
  preferences : Preferences
  providers : List (String × Provider)
  /-- The number of the next provider. -/
  next : Nat
deriving Inhabited

namespace Registry

/-- A registry without providers. -/
def make
    (settings : Settings)
    (convertUnits : Bool)
    (transport : Transport)
    (preferences : Preferences) :
    Registry :=
  { settings, convertUnits, transport, preferences, providers := [], next := 0 }

/-- The provider under a key. -/
def find?
    (registry : Registry)
    (key : String) :
    Option Provider :=
  registry.providers.lookup key

/-- Puts a provider under a key: in the place of an earlier one, else at the end. -/
def place
    (key : String)
    (provider : Provider) :
    List (String × Provider) → List (String × Provider)
  | [] => [(key, provider)]
  | (other, held) :: rest =>
    if other = key then
      (key, provider) :: rest
    else
      (other, held) :: place key provider rest

/-- Replaces the provider under a key, or adds one. -/
def put
    (registry : Registry)
    (key : String)
    (provider : Provider) :
    Registry :=
  { registry with providers := place key provider registry.providers }

/-- The keys, in the order in which they came. -/
def keys
    (registry : Registry) :
    List String :=
  registry.providers.map (·.1)

/-- The candidate of a service for a chain. -/
def candidate
    (chain : Chain)
    (service : Service) :
    Candidate :=
  ⟨⟨service, chain⟩, .ofService chain.family service⟩

/-- A new provider of a chain over the sources that are preferred for it. -/
def build
    (registry : Registry)
    (chain : ChainId)
    (services : List Service) :
    Except Fault Provider :=
  let entry := Chain.ofId chain
  match services with
  | [] => .error .missingItem
  | first :: rest =>
    .ok (.make registry.next entry registry.settings
      ⟨entry.family, registry.convertUnits⟩ registry.transport true
      (candidate entry first) (rest.map (candidate entry)))

/-- Puts a provider in by hand. -/
def register
    (registry : Registry)
    (key : ChainKey)
    (provider : Provider) :
    Except Fault Registry := do
  return { registry.put (← key.name) provider with next := registry.next + 1 }

/-- The provider of a key that is not known yet, and the registry that knows it. -/
def enrol
    (registry : Registry)
    (key : String) :
    Except Fault (Provider × Registry) := do
  let chain ← (ChainKey.spelled (.text key)).identify
  match registry.preferences.lookup chain with
  | none => throw (.noRoute key)
  | some services =>
    let provider ← registry.build chain services
    return (provider, { registry.put key provider with next := registry.next + 1 })

/-- The provider of a key, which is made when it is asked for the first time. -/
def resolve
    (registry : Registry)
    (key : ChainKey) :
    Except Fault (Provider × Registry) := do
  let name ← key.name
  match registry.find? name with
  | some provider => return (provider, registry)
  | none => registry.enrol name

/-- Whether the chain of a key is served, and the registry afterwards. -/
def isSupported
    (registry : Registry)
    (key : ChainKey) :
    Except Fault (Bool × Registry) :=
  match registry.resolve key with
  | .ok (provider, later) => .ok (provider.isSupported, later)
  | .error fault =>
    if fault.kind = .unsupportedChain then .ok (false, registry) else .error fault

end Registry

end Holdings
