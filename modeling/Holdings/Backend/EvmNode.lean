import Holdings.Amount.Raw
import Holdings.Backend.Slots
import Holdings.Balances.Payload
import Holdings.Network.Transport
import Holdings.Text.Integer

/-!
# EVM balances from a node

A node answers the native balance.  Some endpoints add methods that list tokens
and non-fungible tokens; without them both lists are empty.
-/

namespace Holdings.Backend

/-- An endpoint of an EVM node. -/
structure EvmNode where
  endpoint : String
  /-- Whether the endpoint has the methods that list what a wallet holds. -/
  hasListings : Bool
deriving DecidableEq, Repr, Inhabited

namespace EvmNode

/-- The number of non-fungible tokens that are asked for. -/
def pageSize : Int := 40

/-- Calls a method of the node. -/
def call
    (node : EvmNode)
    (transport : Transport)
    (method : String)
    (params : List Json) :
    Fetch Json :=
  transport.rpc node.endpoint method (.array params)

/-- The native balance of an address, in the smallest unit. -/
def nativeBalance
    (node : EvmNode)
    (transport : Transport)
    (address : Json) :
    Fetch String := do
  let result ← node.call transport "eth_getBalance" [address, .text "latest"]
  let amount ← Amount.read result
  Amount.print amount

/-- The entries of a listing; an empty answer has none. -/
def assets
    (result : Json) :
    Except Fault (List Json) := do
  (← result.orEmpty.lookupOr "assets" (.array [])).elements

/-- A listed token in the shape of a payload, unless it names no contract. -/
def tokenEntry
    (asset : Json) :
    Except Fault (Option Json) := do
  let contract ← asset.lookup "address"
  if contract.isPresent then
    return some (.object
      [("contractAddress", contract),
        ("symbol", asset.getD "symbol"),
        ("name", asset.getD "name"),
        ("decimals", asset.getD "decimals"),
        ("balance", (asset.getD "amount").orElse (asset.getD "totalBalance"))])
  else
    return none

/-- A listed non-fungible token in the shape of a payload. -/
def nftEntry
    (asset : Json) :
    Except Fault Json := do
  let contract ← asset.lookup "collectionAddress"
  return .object
    [("contractAddress", contract),
      ("tokenId", (asset.getD "collectionTokenId").orElse (asset.getD "tokenId")),
      ("name", asset.getD "name"),
      ("collectionName", asset.getD "collectionName"),
      ("image", asset.getD "imageUrl")]

/-- The tokens that a listing names. -/
def tokenEntries
    (result : Json) :
    Except Fault (List Json) := do
  let entries ← (← assets result).mapM tokenEntry
  return entries.filterMap id

/-- The non-fungible tokens that a listing names. -/
def nftEntries
    (result : Json) :
    Except Fault (List Json) := do
  (← assets result).mapM nftEntry

/-- The tokens of a wallet. -/
def tokens
    (node : EvmNode)
    (transport : Transport)
    (address : Json) :
    Fetch (List Json) := do
  if node.hasListings then
    let result ← node.call transport "qn_getWalletTokenBalance"
      [.object [("wallet", address)]]
    tokenEntries result
  else
    return []

/-- The non-fungible tokens of a wallet. -/
def nfts
    (node : EvmNode)
    (transport : Transport)
    (address : Json) :
    Fetch (List Json) := do
  if node.hasListings then
    let result ← node.call transport "qn_fetchNFTs"
      [.object [("wallet", address), ("page", .int 1), ("perPage", .int pageSize)]]
    nftEntries result
  else
    return []

/-- Asks a node for the balances of a wallet. -/
def balances
    (node : EvmNode)
    (transport : Transport)
    (chain : ChainId)
    (address : Json)
    (tier : Tier) :
    Fetch Payload := do
  let slots ← fetchSlots chain tier
    (node.nativeBalance transport address)
    (node.tokens transport address)
    (node.nfts transport address)
  return .node (Json.ofText? slots.native) (slots.tokens.getD []) (slots.nfts.getD [])
    slots.failed

/-- A quantity that the node answers, as a non-negative number. -/
def quantity
    (node : EvmNode)
    (transport : Transport)
    (method : String) :
    Fetch Nat := do
  let result ← node.call transport method []
  Amount.read result

/-- The fees of the network; a node that refuses to tell a priority fee has only a price. -/
def fees
    (node : EvmNode)
    (transport : Transport) :
    Fetch RawFee := do
  let price ← node.quantity transport "eth_gasPrice"
  match ← (node.quantity transport "eth_maxPriorityFeePerGas").attempt with
  | .ok priority =>
    let priceText ← Amount.print price
    let highest ← Amount.print (price + priority)
    let priorityText ← Amount.print priority
    return ⟨.text priceText, .text highest, .text priorityText⟩
  | .error fault =>
    if fault.kind = .transport then
      let priceText ← Amount.print price
      return ⟨.text priceText, .null, .null⟩
    else
      Fetch.fail fault

/-- A member of a transaction, if it is present. -/
def presentMember
    (transaction : Json)
    (name : String) :
    List (String × Json) :=
  let value := transaction.getD name
  if value.isPresent then [(name, value)] else []

/-- A transaction as the node is asked about it; the value is written in hexadecimal. -/
def nodeTransaction
    (transaction : Json) :
    Except Fault Json := do
  let sender ← transaction.member "from"
  let given := transaction.getD "value"
  let value ← if given.isNull then
      pure []
    else
      pure [("value", Json.text (Text.hexText (← Amount.read given)))]
  return .object ([("from", sender)] ++ presentMember transaction "to" ++
    presentMember transaction "data" ++ value)

/-- The gas that a transaction is estimated to need. -/
def estimateGas
    (node : EvmNode)
    (transport : Transport)
    (transaction : Json) :
    Fetch String := do
  let prepared ← nodeTransaction transaction
  let result ← node.call transport "eth_estimateGas" [prepared]
  let gas ← Amount.read result
  Amount.print gas

end EvmNode

end Holdings.Backend
