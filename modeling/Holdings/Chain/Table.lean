import Holdings.Chain.Basic

/-!
# The table of chains

Every known chain with its networks, its public endpoints and the aliases under
which services know it.
-/

namespace Holdings.Chain

/-- The public endpoints of both networks. -/
def endpoints
    (mainnet testnet : String) :
    List (Tier × String) :=
  [(.mainnet, mainnet), (.testnet, testnet)]

/-- The aliases of both networks at the one service that has any. -/
def alchemyNetworks
    (mainnet testnet : String) :
    List (Service × List (Tier × String)) :=
  [(.alchemy, [(.mainnet, mainnet), (.testnet, testnet)])]

def ethereum : Chain where
  id := .ethereum
  family := .evm
  keyName := "ETH"
  config :=
    { chainId := 1
      name := "Ethereum"
      nativeSymbol := "ETH"
      nativeDecimals := 18
      testnetChainId := some 11155111
      testnetName := some "Sepolia" }
  image := "https://cryptologos.cc/logos/ethereum-eth-logo.png"
  healthMethod := "eth_blockNumber"
  defaultEndpoints :=
    endpoints "https://eth-mainnet.public.blastapi.io" "https://eth-sepolia.public.blastapi.io"
  aliases := alchemyNetworks "eth-mainnet" "eth-sepolia"

def polygon : Chain where
  id := .polygon
  family := .evm
  keyName := "POLYGON"
  config :=
    { chainId := 137
      name := "Polygon"
      nativeSymbol := "POL"
      nativeDecimals := 18
      testnetChainId := some 80002
      testnetName := some "Amoy" }
  image := "https://cryptologos.cc/logos/polygon-matic-logo.png"
  healthMethod := "eth_blockNumber"
  defaultEndpoints :=
    endpoints "https://polygon-rpc.com" "https://rpc-amoy.polygon.technology"
  aliases := alchemyNetworks "polygon-mainnet" "polygon-amoy"

def bsc : Chain where
  id := .bsc
  family := .evm
  keyName := "BSC"
  config :=
    { chainId := 56
      name := "BNB Smart Chain"
      nativeSymbol := "BNB"
      nativeDecimals := 18
      testnetChainId := some 97
      testnetName := some "BSC Testnet" }
  image := "https://cryptologos.cc/logos/bnb-bnb-logo.png"
  healthMethod := "eth_blockNumber"
  defaultEndpoints :=
    endpoints "https://bsc-dataseed.bnbchain.org"
      "https://data-seed-prebsc-1-s1.bnbchain.org:8545"
  aliases := alchemyNetworks "bnb-mainnet" "bnb-testnet"

def base : Chain where
  id := .base
  family := .evm
  keyName := "BASE"
  config :=
    { chainId := 8453
      name := "Base"
      nativeSymbol := "ETH"
      nativeDecimals := 18
      testnetChainId := some 84532
      testnetName := some "Base Sepolia" }
  image := "https://basescan.org/assets/base/images/svg/logos/chain-light.svg"
  healthMethod := "eth_blockNumber"
  defaultEndpoints := endpoints "https://mainnet.base.org" "https://sepolia.base.org"
  aliases := alchemyNetworks "base-mainnet" "base-sepolia"

def arbitrum : Chain where
  id := .arbitrum
  family := .evm
  keyName := "ARB"
  config :=
    { chainId := 42161
      name := "Arbitrum One"
      nativeSymbol := "ETH"
      nativeDecimals := 18
      testnetChainId := some 421614
      testnetName := some "Arbitrum Sepolia" }
  image := "https://cryptologos.cc/logos/arbitrum-arb-logo.png"
  healthMethod := "eth_blockNumber"
  defaultEndpoints :=
    endpoints "https://arb1.arbitrum.io/rpc" "https://sepolia-rollup.arbitrum.io/rpc"
  aliases := alchemyNetworks "arb-mainnet" "arb-sepolia"

def optimism : Chain where
  id := .optimism
  family := .evm
  keyName := "OPT"
  config :=
    { chainId := 10
      name := "OP Mainnet"
      nativeSymbol := "ETH"
      nativeDecimals := 18
      testnetChainId := some 11155420
      testnetName := some "OP Sepolia" }
  image := "https://cryptologos.cc/logos/optimism-ethereum-op-logo.png"
  healthMethod := "eth_blockNumber"
  defaultEndpoints := endpoints "https://mainnet.optimism.io" "https://sepolia.optimism.io"
  aliases := alchemyNetworks "opt-mainnet" "opt-sepolia"

def solana : Chain where
  id := .solana
  family := .solana
  keyName := "SOL"
  config :=
    { chainId := 101
      name := "Solana"
      nativeSymbol := "SOL"
      nativeDecimals := 9
      testnetChainId := some 103
      testnetName := some "Solana Devnet" }
  image := "https://cryptologos.cc/logos/solana-sol-logo.png"
  healthMethod := "getHealth"
  defaultEndpoints :=
    endpoints "https://api.mainnet-beta.solana.com" "https://api.devnet.solana.com"
  aliases := alchemyNetworks "solana-mainnet" "solana-devnet"

/-- The entry of a chain in the table. -/
def ofId : ChainId → Chain
  | .ethereum => ethereum
  | .polygon => polygon
  | .bsc => bsc
  | .base => base
  | .arbitrum => arbitrum
  | .optimism => optimism
  | .solana => solana

/-- Every entry of the table, in order. -/
def table : List Chain :=
  ChainId.all.map ofId

/-- Each entry stands under its own name. -/
@[simp]
theorem id_ofId
    (chain : ChainId) :
    (ofId chain).id = chain := by
  cases chain <;> rfl

end Holdings.Chain
