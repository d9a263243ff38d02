import Holdings.Backend.Slots
import Holdings.Balances.Payload
import Holdings.Codec.Base64
import Holdings.Network.Transport
import Holdings.Solana.Address
import Holdings.Solana.Metadata
import Holdings.Text.Integer

/-!
# Solana balances from a node

Token accounts are listed by each of the two token programs, and what is told
about a token stands in the metadata account of its mint.  Metadata that was
found is kept and not asked for again.  Non-fungible tokens are the metadata
accounts in which the wallet stands at a fixed place.
-/

namespace Holdings.Backend

open Holdings.Solana

/-- The size of the metadata accounts that are searched, and where the owner stands. -/
structure NftLayout where
  size : Int
  ownerOffset : Int
deriving DecidableEq, Repr, Inhabited

/-- The layout that is searched for unless another is set. -/
def NftLayout.standard : NftLayout := ⟨679, 326⟩

/-- What is kept of a metadata account. -/
structure MintRecord where
  name : String
  symbol : String
  link : String
deriving DecidableEq, Repr, Inhabited

/-- The kept part of a metadata account. -/
def MintRecord.ofMetadata
    (metadata : Metadata) :
    MintRecord :=
  ⟨metadata.name, metadata.symbol, metadata.link⟩

/-- A record in the shape of a payload. -/
def MintRecord.toJson
    (record : MintRecord) :
    Json :=
  .object
    [("name", .text record.name), ("symbol", .text record.symbol), ("uri", .text record.link)]

/-- The records that were found so far, by mint. -/
structure MintCache where
  entries : List (String × MintRecord)
deriving DecidableEq, Repr, Inhabited

namespace MintCache

/-- The cache in which nothing is kept. -/
def empty : MintCache := ⟨[]⟩

/-- The record of a mint. -/
def get?
    (cache : MintCache)
    (mint : String) :
    Option MintRecord :=
  cache.entries.lookup mint

/-- Keeps a record of a mint in front of older ones. -/
def insert
    (cache : MintCache)
    (mint : String)
    (record : MintRecord) :
    MintCache :=
  ⟨(mint, record) :: cache.entries⟩

@[simp]
theorem get?_empty
    (mint : String) :
    empty.get? mint = none :=
  rfl

@[simp]
theorem get?_insert_self
    (cache : MintCache)
    (mint : String)
    (record : MintRecord) :
    (cache.insert mint record).get? mint = some record := by
  simp [insert, get?]

theorem get?_insert_of_ne
    (cache : MintCache)
    {mint other : String}
    (record : MintRecord)
    (different : other ≠ mint) :
    (cache.insert mint record).get? other = cache.get? other := by
  have unequal : (other == mint) = false := by simpa using different
  simp [insert, get?, List.lookup_cons, unequal]

end MintCache

/-- What a look-up of a mint ended with. -/
inductive MintLookup where
  /-- The record was kept. -/
  | kept (record : MintRecord)
  /-- The record was found on the network. -/
  | found (mint : String) (record : MintRecord)
  /-- The mint has no metadata account. -/
  | absent
deriving DecidableEq, Repr, Inhabited

namespace MintLookup

/-- The record that a look-up ended with. -/
def record? : MintLookup → Option MintRecord
  | .kept record => some record
  | .found _ record => some record
  | .absent => none

/-- Keeps what a look-up found. -/
def store
    (lookup : MintLookup)
    (cache : MintCache) :
    MintCache :=
  match lookup with
  | .found mint record => cache.insert mint record
  | _ => cache

/-- The record of a look-up in the shape of a payload; null when there is none. -/
def toJson
    (lookup : MintLookup) :
    Json :=
  match lookup.record? with
  | some record => record.toJson
  | none => .null

end MintLookup

/-- An endpoint of a Solana node. -/
structure SolanaNode where
  endpoint : String
  layout : NftLayout
  /-- What each signature costs. -/
  lamportsPerSignature : Int
deriving DecidableEq, Repr, Inhabited

namespace SolanaNode

/-- A node with the usual layout and cost of a signature. -/
def standard
    (endpoint : String) :
    SolanaNode :=
  { endpoint, layout := .standard, lamportsPerSignature := 5000 }

/-- Calls a method of the node. -/
def call
    (node : SolanaNode)
    (transport : Transport)
    (method : String)
    (params : List Json) :
    Fetch Json :=
  transport.rpc node.endpoint method (.array params)

/-- The native balance of an address, in the smallest unit. -/
def nativeBalance
    (node : SolanaNode)
    (transport : Transport)
    (address : Json) :
    Fetch String := do
  let result ← node.call transport "getBalance" [address]
  let value ← result.member "value"
  value.print

/-- A token account before anything is known about its mint. -/
structure AccountEntry where
  mint : Json
  amount : Json
  decimals : Json
deriving Inhabited, Repr

/-- The mint, amount and decimals of an account that is well formed. -/
def readAccount
    (account : Json) :
    Except Fault AccountEntry := do
  let content ← account.member "account"
  let data ← content.member "data"
  let parsed ← data.member "parsed"
  let info ← parsed.member "info"
  let mint ← info.member "mint"
  let tokenAmount ← info.member "tokenAmount"
  let amount ← tokenAmount.member "amount"
  let decimals ← tokenAmount.lookup "decimals"
  return { mint, amount, decimals }

/-- The well-formed accounts of a list; the others are passed over. -/
def readAccounts
    (accounts : List Json) :
    List AccountEntry :=
  accounts.filterMap fun account => (readAccount account).toOption

/-- The accounts in the answer of one token program. -/
def programAccounts
    (result : Json) :
    Except Fault (List AccountEntry) := do
  let listed ← result.lookupOr "value" (.array [])
  return readAccounts (← listed.elements)

/-- The parameters with which the accounts of one program are asked for. -/
def accountParams
    (address : Json)
    (program : String) :
    List Json :=
  [address, .object [("programId", .text program)],
    .object [("encoding", .text "jsonParsed")]]

/-- The accounts in an outcome; a program that failed has none. -/
def outcomeAccounts
    (outcome : Except Fault Json) :
    Except Fault (List AccountEntry) :=
  match outcome with
  | .ok result => programAccounts result
  | .error _ => .ok []

/-- The accounts in the outcomes of both programs, unless both of them failed. -/
def joinPrograms
    (classic extended : Except Fault Json) :
    Except Fault (List AccountEntry) := do
  match classic, extended with
  | .error fault, .error _ => throw fault
  | _, _ =>
    let first ← outcomeAccounts classic
    let second ← outcomeAccounts extended
    return first ++ second

/-- The token accounts of a wallet under both token programs. -/
def tokenAccounts
    (node : SolanaNode)
    (transport : Transport)
    (address : Json) :
    Fetch (List AccountEntry) := do
  let classic ← (node.call transport "getTokenAccountsByOwner"
    (accountParams address tokenProgram)).attempt
  let extended ← (node.call transport "getTokenAccountsByOwner"
    (accountParams address extendedTokenProgram)).attempt
  joinPrograms classic extended

/-- The metadata account in the data of an account, which is base 64 text in a list. -/
def readMetadata
    (data : Json) :
    Except Fault Metadata := do
  match ← data.firstItem with
  | .text written => Metadata.decode (← Base64.decode written)
  | _ => throw .wrongShape

/-- The metadata in an entry of a search for accounts. -/
def readFoundAccount
    (entry : Json) :
    Except Fault Metadata := do
  let account ← entry.member "account"
  let data ← account.member "data"
  readMetadata data

/-- Whether an entry that cannot be read for a cause is passed over. -/
def isPassedOver : Fault → Bool
  | .missingMember => true
  | .wrongShape => true
  | .missingItem => true
  | fault => fault.kind = .value

/-- Checks that an entry that is passed over can be named in a report. -/
def checkReported
    (entry : Json) :
    Except Fault Unit := do
  let name ← entry.lookup "pubkey"
  if name.isShowable then
    return ()
  else
    throw .digitLimit

/-- A found token in the shape of a payload. -/
def nftEntry
    (metadata : Metadata) :
    Json :=
  .object
    [("mint", .text metadata.mint), ("name", .text metadata.name),
      ("symbol", .text metadata.symbol), ("uri", .text metadata.link)]

/-- The tokens among the entries of a search; what cannot be read is passed over. -/
def readFoundAccounts :
    List Json → Except Fault (List Json)
  | [] => .ok []
  | entry :: rest =>
    match readFoundAccount entry with
    | .ok metadata => do
      let tokens ← readFoundAccounts rest
      return nftEntry metadata :: tokens
    | .error fault =>
      if isPassedOver fault then do
        checkReported entry
        readFoundAccounts rest
      else
        .error fault

/-- The parameters of the search for the metadata accounts of a wallet. -/
def searchParams
    (node : SolanaNode)
    (address : Json) :
    List Json :=
  let sizeFilter := Json.object [("dataSize", .int node.layout.size)]
  let ownerFilter := Json.object
    [("memcmp", .object [("offset", .int node.layout.ownerOffset), ("bytes", address)])]
  [.text metadataProgram,
    .object [("encoding", .text "base64"), ("filters", .array [sizeFilter, ownerFilter])]]

/-- The non-fungible tokens of a wallet. -/
def nfts
    (node : SolanaNode)
    (transport : Transport)
    (address : Json) :
    Fetch (List Json) := do
  let result ← node.call transport "getProgramAccounts" (node.searchParams address)
  let entries ← (result.orElse (.array [])).elements
  readFoundAccounts entries

/-- Looks up the metadata of a mint: among what is kept, then on the network. -/
def lookupMint
    (node : SolanaNode)
    (transport : Transport)
    (cache : MintCache)
    (mint : Json) :
    Fetch MintLookup := do
  let key ← mint.print
  match cache.get? key with
  | some record => return .kept record
  | none =>
    let address ← metadataAddressOf mint
    let result ← node.call transport "getAccountInfo"
      [.text address, .object [("encoding", .text "base64")]]
    let value ← result.orEmpty.lookup "value"
    if value.isPresent then
      let data ← value.member "data"
      let metadata ← readMetadata data
      return .found key (.ofMetadata metadata)
    else
      return .absent

/-- An account with what was told about its mint; null when the look-up failed. -/
def tokenAccount
    (entry : AccountEntry)
    (lookup : Option MintLookup) :
    TokenAccount :=
  ⟨entry.mint, entry.amount, entry.decimals, (lookup.map MintLookup.toJson).getD .null⟩

/-- Keeps what look-ups found, in order. -/
def storeAll
    (cache : MintCache)
    (lookups : List (Option MintLookup)) :
    MintCache :=
  lookups.foldl
    (fun kept lookup =>
      match lookup with
      | some found => found.store kept
      | none => kept)
    cache

/--
Asks a node for the balances of a wallet.  All look-ups of mints see the records that
were kept before; what they find is kept afterwards.
-/
def balances
    (node : SolanaNode)
    (transport : Transport)
    (cache : MintCache)
    (chain : ChainId)
    (address : Json)
    (tier : Tier) :
    Fetch (Payload × MintCache) := do
  let slots ← fetchSlots chain tier
    (node.nativeBalance transport address)
    (node.tokenAccounts transport address)
    (node.nfts transport address)
  let accounts := slots.tokens.getD []
  let lookups ← fetchEach chain tier
    (fun entry : AccountEntry => node.lookupMint transport cache entry.mint) accounts
  let payload := Payload.solana (Json.ofText? slots.native)
    (accounts.zipWith tokenAccount lookups) (slots.nfts.getD [])
    (withMetadataPart slots.failed lookups)
  return (payload, storeAll cache lookups)

/-- The integer that a value is read as. -/
def readWhole : Json → Except Fault Int
  | .int value => .ok value
  | .bool value => .ok (if value then 1 else 0)
  | .double .nan => .error .notAnInteger
  | .double value =>
    match value.truncate? with
    | some whole => .ok whole
    | none => .error .infiniteInteger
  | .text written =>
    match Text.readInteger written with
    | some value => .ok value
    | none => .error .notAnInteger
  | _ => .error .wrongShape

/-- The fee in an entry of the list of recent fees; a missing one is zero. -/
def recentFee
    (entry : Json) :
    Except Fault Int := do
  readWhole (← entry.lookupOr "prioritizationFee" (.int 0))

/-- The largest of a list of fees; an empty list has zero. -/
def largestFee : List Int → Int
  | [] => 0
  | first :: rest => rest.foldl max first

/-- The priority fee in the list of recent fees; an empty answer has none. -/
def priorityOf
    (result : Json) :
    Except Fault Int := do
  let recent ← (← (result.orElse (.array [])).elements).mapM recentFee
  return largestFee recent

/-- The fees of the network: the cost of a signature and the largest recent priority fee. -/
def fees
    (node : SolanaNode)
    (transport : Transport) :
    Fetch RawFee := do
  let result ← node.call transport "getRecentPrioritizationFees" []
  let priority ← priorityOf result
  let price ← Json.print (.int node.lamportsPerSignature)
  let priorityText ← Json.print (.int priority)
  return ⟨.text price, .null, .text priorityText⟩

/-- The compute units that the simulation of a transaction consumed. -/
def consumedUnits
    (chain : ChainId)
    (result : Json) :
    Except Fault String := do
  let value := (← result.orEmpty.lookup "value").orEmpty
  let error ← value.lookup "err"
  if error.isNull then
    ((value.getD "unitsConsumed").orElse (.int 0)).print
  else
    throw (Fault.naming error (.simulationFailed error chain))

/-- The compute units that a transaction is estimated to need, by simulating it. -/
def estimateUnits
    (node : SolanaNode)
    (transport : Transport)
    (chain : ChainId)
    (transaction : Json) :
    Fetch String := do
  let data ← transaction.lookup "data"
  if data.isPresent then
    let result ← node.call transport "simulateTransaction"
      [data, .object [("encoding", .text "base64"), ("sigVerify", .bool false),
        ("replaceRecentBlockhash", .bool true)]]
    consumedUnits chain result
  else
    Fetch.fail .transactionRequired

end SolanaNode

end Holdings.Backend
