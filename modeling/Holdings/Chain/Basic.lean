import Holdings.Json.Basic

/-!
# Chains, tiers and services

A chain belongs to a family, which fixes how its balances are asked for and
read.  Each chain has a main and a test network, its tiers.  A service is a
kind of source that can answer for a chain; some services know a network by
an alias of their own.
-/

namespace Holdings

/-- The chains that are known by name. -/
inductive ChainId where
  | ethereum
  | polygon
  | bsc
  | base
  | arbitrum
  | optimism
  | solana
deriving DecidableEq, Repr, Inhabited

namespace ChainId

/-- Every chain, in the order in which chains are listed. -/
def all : List ChainId :=
  [.ethereum, .polygon, .bsc, .base, .arbitrum, .optimism, .solana]

/-- The name of a chain. -/
def name : ChainId → String
  | .ethereum => "ethereum"
  | .polygon => "polygon"
  | .bsc => "bsc"
  | .base => "base"
  | .arbitrum => "arbitrum"
  | .optimism => "optimism"
  | .solana => "solana"

/-- The chain of a name. -/
def ofName?
    (name : String) :
    Option ChainId :=
  all.find? fun chain => chain.name = name

@[simp]
theorem ofName?_name
    (chain : ChainId) :
    ofName? chain.name = some chain := by
  cases chain <;> decide

end ChainId

/-- The two networks of a chain. -/
inductive Tier where
  | mainnet
  | testnet
deriving DecidableEq, Repr, Inhabited

namespace Tier

/-- Both tiers, the main network first. -/
def all : List Tier := [.mainnet, .testnet]

/-- The name of a tier. -/
def name : Tier → String
  | .mainnet => "mainnet"
  | .testnet => "testnet"

/-- The name of a tier inside the name of a setting. -/
def keyName : Tier → String
  | .mainnet => "MAINNET"
  | .testnet => "TESTNET"

/-- The tier of a name. -/
def ofName?
    (name : String) :
    Option Tier :=
  all.find? fun tier => tier.name = name

@[simp]
theorem ofName?_name
    (tier : Tier) :
    ofName? tier.name = some tier := by
  cases tier <;> decide

end Tier

/-- One value for each tier. -/
structure ByTier (α : Type) where
  mainnet : α
  testnet : α
deriving Repr, Inhabited

namespace ByTier

variable {α : Type}

/-- The values that a function gives the tiers. -/
def ofFn
    (value : Tier → α) :
    ByTier α :=
  ⟨value .mainnet, value .testnet⟩

/-- The value of a tier. -/
def get
    (values : ByTier α) :
    Tier → α
  | .mainnet => values.mainnet
  | .testnet => values.testnet

/-- Replaces the value of one tier. -/
def set
    (values : ByTier α)
    (tier : Tier)
    (value : α) :
    ByTier α :=
  match tier with
  | .mainnet => { values with mainnet := value }
  | .testnet => { values with testnet := value }

@[simp]
theorem get_ofFn
    (value : Tier → α)
    (tier : Tier) :
    (ofFn value).get tier = value tier := by
  cases tier <;> rfl

@[simp]
theorem get_set_self
    (values : ByTier α)
    (tier : Tier)
    (value : α) :
    (values.set tier value).get tier = value := by
  cases tier <;> rfl

theorem get_set_of_ne
    (values : ByTier α)
    {tier other : Tier}
    (value : α)
    (different : other ≠ tier) :
    (values.set tier value).get other = values.get other := by
  cases tier <;> cases other <;> first | rfl | exact absurd rfl different

end ByTier

/-- How a chain keeps accounts. -/
inductive Family where
  | evm
  | solana
deriving DecidableEq, Repr, Inhabited

/-- The name of a family. -/
def Family.name : Family → String
  | .evm => "EVM"
  | .solana => "SOL"

/-- A kind of source; `rpc` is a bare JSON-RPC endpoint, public or one's own. -/
inductive Service where
  | alchemy
  | quicknode
  | rpc
deriving DecidableEq, Repr, Inhabited

namespace Service

/-- Every service. -/
def all : List Service := [.alchemy, .quicknode, .rpc]

/-- The name of a service as it is written in tables. -/
def name : Service → String
  | .alchemy => "ALCHEMY"
  | .quicknode => "QUICKNODE"
  | .rpc => "RPC"

/-- The name of a data source of the service. -/
def sourceName : Service → String
  | .alchemy => "alchemy"
  | .quicknode => "quicknode"
  | .rpc => "rpc"

/-- The service of a name. -/
def ofName?
    (name : String) :
    Option Service :=
  all.find? fun service => service.name = name

end Service

/-- What is told about a chain. -/
structure ChainConfig where
  chainId : Int
  name : String
  nativeSymbol : String
  nativeDecimals : Int
  testnetChainId : Option Int
  testnetName : Option String
deriving DecidableEq, Repr, Inhabited

/-- A chain with all that is needed to reach it. -/
structure Chain where
  id : ChainId
  family : Family
  /-- The part of a setting's name that stands for the chain. -/
  keyName : String
  config : ChainConfig
  image : String
  /-- A cheap call that answers when an endpoint is well. -/
  healthMethod : String
  defaultEndpoints : List (Tier × String)
  aliases : List (Service × List (Tier × String))
deriving DecidableEq, Repr, Inhabited

/-- The name by which a service knows a network of the chain. -/
def Chain.alias?
    (chain : Chain)
    (service : Service)
    (tier : Tier) :
    Option String :=
  (chain.aliases.lookup service).bind fun networks => networks.lookup tier

end Holdings
