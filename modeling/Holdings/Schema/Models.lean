import Holdings.Balances.Basic
import Holdings.Schema.Shape

/-!
# The public models

The records that are taken in and given out.  The label of a field is its name
in camel case, except for the descriptions of a chain, which keep their names.
-/

namespace Holdings.Schema

/-- A field that has to be given. -/
def required
    (name label : String)
    (shape : Shape) :
    Field × Shape :=
  (⟨name, label, none⟩, shape)

/-- A field that may be left out. -/
def defaulted
    (name label : String)
    (shape : Shape)
    (fallback : Json) :
    Field × Shape :=
  (⟨name, label, some fallback⟩, shape)

/-- A field that may be left out or null. -/
def optional
    (name label : String)
    (shape : Shape) :
    Field × Shape :=
  defaulted name label (.optional shape) .null

def nativeBalance : Model where
  name := "NativeBalance"
  fields := [defaulted "balance" "balance" .text (.text "0")]
  isFrozen := false

def tokenMetadata : Model where
  name := "TokenMetadata"
  fields :=
    [defaulted "symbol" "symbol" .text (.text unknownSymbol),
      required "decimals" "decimals" (.integer (some 0)),
      defaulted "name" "name" .text (.text unknownTokenName)]
  isFrozen := false

def tokenBalance : Model where
  name := "TokenBalance"
  fields :=
    [required "mint" "mint" .text,
      defaulted "balance" "balance" .text (.text "0"),
      optional "token_metadata" "tokenMetadata" (.record tokenMetadata.fields)]
  isFrozen := false

def nftCollection : Model where
  name := "NftCollection"
  fields := [defaulted "name" "name" .text (.text unknownCollectionName)]
  isFrozen := false

def nftMetadata : Model where
  name := "NftMetadata"
  fields :=
    [optional "collection" "collection" (.record nftCollection.fields),
      defaulted "name" "name" .text (.text unknownNftName),
      defaulted "image" "image" .textOrEmpty (.text "")]
  isFrozen := false

def nftBalance : Model where
  name := "NftBalance"
  fields :=
    [required "mint" "mint" .text,
      defaulted "token_id" "tokenId" (.optional .text) (.text ""),
      optional "token_metadata" "tokenMetadata" (.record nftMetadata.fields)]
  isFrozen := false

def balancesResponse : Model where
  name := "BalancesResponse"
  fields :=
    [defaulted "native_balance" "nativeBalance" (.record nativeBalance.fields)
        (.object [("balance", .text "0")]),
      defaulted "tokens" "tokens" (.listOf (.record tokenBalance.fields)) (.array []),
      defaulted "nfts" "nfts" (.listOf (.record nftBalance.fields)) (.array [])]
  isFrozen := false

def transactionRequest : Model where
  name := "TransactionRequest"
  fields :=
    [required "from_address" "from" .text,
      optional "to" "to" .text,
      optional "data" "data" .text,
      optional "value" "value" .integerOrText]
  isFrozen := false

def gasPriceResponse : Model where
  name := "GasPriceResponse"
  fields := [required "gas_price" "gasPrice" .text]
  isFrozen := false

def gasEstimateResponse : Model where
  name := "GasEstimateResponse"
  fields := [required "gas" "gas" .text]
  isFrozen := false

def healthResponse : Model where
  name := "HealthResponse"
  fields :=
    [required "chain" "chain" .text, required "tier" "tier" .text,
      required "healthy" "healthy" .flag]
  isFrozen := false

def rpcRequest : Model where
  name := "RpcRequest"
  fields :=
    [required "method" "method" .text, defaulted "params" "params" .anyList (.array [])]
  isFrozen := false

def chainSummary : Model where
  name := "ChainSummary"
  fields :=
    [required "id" "id" .text, required "family" "family" .text,
      required "chain_id" "chainId" (.integer none), required "name" "name" .text,
      required "native_symbol" "nativeSymbol" .text,
      required "native_decimals" "nativeDecimals" (.integer none),
      optional "testnet_chain_id" "testnetChainId" (.integer none),
      optional "testnet_name" "testnetName" .text,
      required "supported" "supported" .flag]
  isFrozen := false

def chainConfig : Model where
  name := "ChainConfig"
  fields :=
    [required "chain_id" "chain_id" (.integer none), required "name" "name" .text,
      required "native_symbol" "native_symbol" .text,
      required "native_decimals" "native_decimals" (.integer none),
      optional "testnet_chain_id" "testnet_chain_id" (.integer none),
      optional "testnet_name" "testnet_name" .text]
  isFrozen := true

/-- Texts by tier. -/
def tierTable : Shape := .table (Tier.all.map Tier.name) .text

/-- The networks of a chain by service and tier. -/
def aliasField : Field × Shape :=
  optional "aliases" "aliases" (.table (Service.all.map Service.name) tierTable)

def aliasModel : Model where
  name := "AliasModel"
  fields := [aliasField]
  isFrozen := false

def chain : Model where
  name := "Chain"
  fields :=
    [aliasField, required "id" "id" (.oneOf (ChainId.all.map ChainId.name)),
      required "family" "family" (.oneOf ([.evm, .solana].map Family.name)),
      required "env_prefix" "env_prefix" .text,
      required "config" "config" (.record chainConfig.fields),
      required "image" "image" .text, required "health_method" "health_method" .text,
      defaulted "default_endpoints" "default_endpoints" tierTable Json.empty]
  isFrozen := true

/-- Every public model. -/
def models : List Model :=
  [nativeBalance, tokenMetadata, tokenBalance, nftCollection, nftMetadata, nftBalance,
    balancesResponse, transactionRequest, gasPriceResponse, gasEstimateResponse,
    healthResponse, rpcRequest, chainSummary, chainConfig, aliasModel, chain]

/-- What is told about a token whose parts come from outside, decimals included. -/
def describeToken
    (symbol decimals name : Json) :
    Except Fault Record :=
  tokenMetadata.validate <| .object
    [("symbol", symbol.orElse (.text unknownSymbol)),
      ("decimals", decimals),
      ("name", name.orElse (.text unknownTokenName))]

end Holdings.Schema
