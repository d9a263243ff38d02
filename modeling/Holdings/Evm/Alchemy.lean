import Holdings.Amount.Raw
import Holdings.Balances.Payload
import Holdings.Evm.Block
import Holdings.Evm.Fee
import Holdings.Json.Parser
import Holdings.Network.Transport

/-!
# The indexer of one EVM network

Alchemy serves the JSON-RPC methods of a node, methods of its own that list the
tokens of a wallet, and a listing of non-fungible tokens that comes in pages.
-/

namespace Holdings.Evm

/-- Access to the indexer of one network. -/
structure Alchemy where
  network : String
  key : String
deriving DecidableEq, Repr, Inhabited

namespace Alchemy

/-- Access with a key, which has to be there. -/
def open?
    (network key : String) :
    Except Fault Alchemy :=
  if key = "" then .error .keyRequired else .ok { network, key }

/-- The endpoint of JSON-RPC calls. -/
def rpcUrl
    (client : Alchemy) :
    String :=
  s!"https://{client.network}.g.alchemy.com/v2/{client.key}"

/-- The address of the listing of non-fungible tokens. -/
def nftUrl
    (client : Alchemy) :
    String :=
  s!"https://{client.network}.g.alchemy.com/nft/v3/{client.key}/getNFTsForOwner"

/-- What the client makes of a reply. -/
def receive : Reply → Except Fault Json
  | .value envelope => .ok envelope
  | .status _ _ => .error .badNodeResponse
  | .garbled code defect first =>
    .error (if 400 ≤ code then .badNodeResponse else .undecodable defect first)
  | .refused text => .error (.clientFailed text)
  | .silent => .error .timedOut
  | .unsent flaw => .error flaw.fault

/-- Sends a JSON-RPC call and brings back the envelope. -/
def send
    (client : Alchemy)
    (method : String)
    (params : List Json) :
    Fetch Json := do
  let reply ← Fetch.ask (.rpc .client client.rpcUrl method (.array params))
  receive reply

theorem run_send
    (client : Alchemy)
    (method : String)
    (params : List Json)
    (network : Network)
    (log : Log) :
    (client.send method params).run network log =
      (receive (network log.calls (.rpc .client client.rpcUrl method (.array params))),
        { log with
          calls := log.calls ++ [.rpc .client client.rpcUrl method (.array params)] }) :=
  rfl

/-- Calls a method of the node. -/
def nodeCall
    (client : Alchemy)
    (method : String)
    (params : List Json) :
    Fetch NodeAnswer := do
  let envelope ← client.send method params
  readNodeEnvelope method params envelope

/-- Calls a method of the node that answers with a quantity. -/
def nodeQuantity
    (client : Alchemy)
    (method : String)
    (params : List Json) :
    Fetch NodeAnswer := do
  let answer ← client.nodeCall method params
  answer.quantity

/-- The result in the envelope of a method of the indexer; a missing one is null. -/
def indexerResult
    (method : String)
    (envelope : Json) :
    Except Fault Json := do
  let error ← envelope.lookup "error"
  if error.isPresent then
    throw (Transport.errorFault method error)
  else
    return envelope.getD "result"

/-- Calls a method of the indexer. -/
def indexerCall
    (client : Alchemy)
    (method : String)
    (params : List Json) :
    Fetch Json := do
  let envelope ← client.send method params
  indexerResult method envelope

/-- The native balance of an address, in the smallest unit. -/
def balance
    (client : Alchemy)
    (address : Json) :
    Fetch String := do
  let account ← checkedAddress address
  let quantity ← client.nodeQuantity "eth_getBalance" [.text account, .text "latest"]
  quantity.print

/-- The tokens that a wallet ever touched, with their balances. -/
def tokenBalances
    (client : Alchemy)
    (address : Json) :
    Fetch Json := do
  let result ← client.indexerCall "alchemy_getTokenBalances" [address, .text "erc20"]
  result.orEmpty.lookupOr "tokenBalances" (.array [])

/-- What the indexer tells about a token. -/
def tokenMetadata
    (client : Alchemy)
    (contract : Json) :
    Fetch Json := do
  let result ← client.indexerCall "alchemy_getTokenMetadata" [contract]
  return result.orEmpty

/-- The largest number of pages that are asked for one wallet. -/
def pageLimit : Nat := 5

/-- Whether a character of a body is skipped at its ends: a space or a control of ASCII. -/
def isBodyGap
    (character : Char) :
    Bool :=
  character = ' ' || '\t' ≤ character && character ≤ '\r'

/-- A body without the gaps at its ends. -/
def bodyContent
    (body : String) :
    String :=
  String.ofList (Text.stripEnds isBodyGap body.toList)

/-- The value of the body of a page; a body of nothing but gaps is null. -/
def decodePage
    (body : String) :
    Except Fault Json :=
  if bodyContent body = "" then
    .ok .null
  else
    match Json.parseBody (bodyContent body) with
    | .ok value => .ok value
    | .error .tooDeep => .error .tooDeep
    | .error _ => .error .nftMalformed

/-- What is made of the reply to a page. -/
def receivePage : Reply → Except Fault Json
  | .value value => .ok value
  | .status code body => if 400 ≤ code then .error (.nftStatus code) else decodePage body
  | .garbled code _ _ => .error (if 400 ≤ code then .nftStatus code else .nftMalformed)
  | .refused text => .error (.nftFailed text)
  | .silent => .error .nftTimedOut
  | .unsent flaw =>
    .error (if flaw.fault.kind = .value then .nftMalformed else flaw.fault)

/-- Asks for a page and for those that follow it, as many as are allowed. -/
def nftPages
    (client : Alchemy) :
    Nat → List (String × Json) → Fetch (List Json)
  | 0, _ => return []
  | allowed + 1, query => do
    let reply ← Fetch.ask (.page client.nftUrl (.object query))
    let page ← receivePage reply
    let owned ← (← page.lookupOr "ownedNfts" (.array [])).elements
    let nextPage := page.getD "pageKey"
    if nextPage.isPresent then
      return owned ++ (← nftPages client allowed (Json.setMember query "pageKey" nextPage))
    else
      return owned

/-- The non-fungible tokens of a wallet. -/
def nftsOf
    (client : Alchemy)
    (address : Json) :
    Fetch (List Json) :=
  client.nftPages pageLimit [("owner", address), ("withMetadata", .text "true")]

/-- How many past blocks are looked at, up to which one, and at which percentile. -/
def historyParams : List Json :=
  [.text "0xa", .text "pending",
    .array [.double (Double.ofRatio false 5 1)]]

/-- The priority fee: the node's own, or one from past blocks if the node knows none. -/
def priorityFee
    (client : Alchemy) :
    Fetch NodeAnswer := do
  match ← (client.nodeQuantity "eth_maxPriorityFeePerGas" []).attempt with
  | .ok fee => return fee
  | .error .nodeRefused =>
    let history ← client.nodeCall "eth_feeHistory" historyParams
    return .result (.int (← estimatePriority history.value))
  | .error fault => Fetch.fail fault

/-- The base fee of the latest block; null when the network has none. -/
def baseFee
    (client : Alchemy) :
    Fetch Json := do
  let block ← client.nodeCall blockMethod [.text "latest", .bool false]
  baseFeeOf block

/-- The fees of the network; without a priority fee there is only the gas price. -/
def fees
    (client : Alchemy) :
    Fetch RawFee := do
  let price ← client.nodeQuantity "eth_gasPrice" []
  match ← client.priorityFee.attempt with
  | .error _ => return ⟨.text (← price.print), .null, .null⟩
  | .ok priority =>
    let base ← client.baseFee
    let highest ← highestFee base priority.value
    return ⟨.text (← price.print), highest, .text (← priority.print)⟩

/-- A transaction as the node is asked about it: addresses are checked, the value is read. -/
def nodeTransaction
    (transaction : Json) :
    Except Fault Json := do
  let sender ← checkedAddress (← transaction.member "from")
  let target := transaction.getD "to"
  let recipient ← if target.isPresent then
      pure [("to", Json.text (← checkedAddress target))]
    else
      pure []
  let given := transaction.getD "value"
  let value ← if given.isNull then
      pure []
    else
      pure [("value", Json.text (Text.hexText (← Amount.read given)))]
  let input := transaction.getD "data"
  let data ← if input.isPresent then
      pure [("data", Json.text (← callData input))]
    else
      pure []
  return .object ([("from", .text sender)] ++ recipient ++ data ++ value)

/-- The gas that a transaction is estimated to need. -/
def estimateGas
    (client : Alchemy)
    (transaction : Json) :
    Fetch String := do
  let prepared ← nodeTransaction transaction
  let gas ← client.nodeQuantity estimateMethod [prepared, .text "latest"]
  gas.print

end Alchemy

end Holdings.Evm
