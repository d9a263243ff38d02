import Holdings.Evm.Envelope

/-!
# Blocks

The latest block of a network is asked for its base fee alone.  It is taken only
if every member that is known has its form, the transactions and withdrawals in
it included.
-/

namespace Holdings.Evm

/-- Thirty-two bytes, or null. -/
def hashForm : Form := .nullable (.bytes 32 false)

/-- Members that have one form. -/
def sharing
    (form : Form)
    (names : List String) :
    List (String × Form) :=
  names.map fun name => (name, form)

/-- An address with the places of storage that a transaction may read. -/
def accessForm : Form :=
  .record [("address", .address), ("storageKeys", .listOf .place)]

/-- A signed permission to act for an account. -/
def permissionForm : Form :=
  .record <|
    sharing .quantity ["chainId", "nonce", "yParity"] ++
    [("address", .address)] ++
    sharing (.bytes 32 true) ["r", "s"]

/-- A transaction that is written out in a block. -/
def transactionForm : Form :=
  .record <|
    sharing (.nullable (.bytes 32 true)) ["r", "s"] ++
    sharing (.nullable .quantity)
      ["blockNumber", "transactionIndex", "v", "yParity", "standardV", "type", "chainId"] ++
    sharing .quantity
      ["nonce", "gas", "gasPrice", "maxFeePerGas", "maxPriorityFeePerGas", "value",
        "maxFeePerBlobGas"] ++
    sharing .data ["raw", "input", "data"] ++
    [("blockHash", hashForm), ("from", .address), ("hash", .bytes 32 false),
      ("publicKey", .nullable (.bytes 64 false)),
      ("accessList", .nullable (.each accessForm)),
      ("blobVersionedHashes", .nullable (.each (.bytes 32 false))),
      ("authorizationList", .nullable (.each permissionForm))]

/-- A withdrawal in a block. -/
def withdrawalForm : Form :=
  .record (sharing .quantity ["index", "validatorIndex", "amount"] ++ [("address", .address)])

/-- A block. -/
def blockForm : Form :=
  .record <|
    sharing .quantity
      ["baseFeePerGas", "gasLimit", "gasUsed", "size", "timestamp", "number", "difficulty",
        "totalDifficulty", "blobGasUsed", "excessBlobGas"] ++
    sharing hashForm
      ["hash", "mixHash", "parentHash", "sha3Uncles", "receiptsRoot", "stateRoot",
        "transactionsRoot", "withdrawalsRoot", "parentBeaconBlockRoot", "requestsHash"] ++
    [("logsBloom", .nullable (.bytes 256 false)), ("nonce", .nullable (.bytes 8 true)),
      ("extraData", .nullable (.bytes 32 true)), ("miner", .nullable .address),
      ("uncles", .listOf (.bytes 32 false)),
      ("transactions", .listOfEither transactionForm (.bytes 32 false)),
      ("withdrawals", .nullable (.listOf withdrawalForm))]

/-- A member of a block, unless a member named `get` stands in the way. -/
def blockMember
    (members : List (Json × Formed))
    (name : String) :
    Except Fault Json :=
  if (Formed.find? members "get").isSome then
    .error .wrongShape
  else
    .ok (((Formed.find? members name).map Formed.toJson).getD .null)

/-- The base fee of a block that a node answered with; null when the network has none. -/
def baseFeeOf
    (block : NodeAnswer) :
    Except Fault Json :=
  match block with
  | .result .null => .error .badNodeResponse
  | .result value => do
    match ← blockForm.read value with
    | .object _ members => blockMember members "baseFeePerGas"
    | _ => throw .wrongShape
  | .notice _ _ => .ok .null

end Holdings.Evm
