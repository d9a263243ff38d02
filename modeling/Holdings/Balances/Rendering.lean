import Holdings.Amount.Units
import Holdings.Balances.Basic
import Holdings.Balances.Payload
import Holdings.Json.Access

/-!
# From payloads to balances

A rendering turns the payload of a source into balances: it converts amounts to
whole units, unless it is told to leave them in the smallest unit, and fills in
what the source left out.  An amount that makes no sense is reported as zero.
A value of the wrong type where the report needs a text is a fault.
-/

namespace Holdings

/-- How the balances of a family of chains are written. -/
structure Rendering where
  family : Family
  convertUnits : Bool
deriving DecidableEq, Repr, Inhabited

namespace Rendering

/-- The decimals of an asset that tells none. -/
def defaultDecimals
    (rendering : Rendering) :
    Nat :=
  match rendering.family with
  | .evm => 18
  | .solana => 9

/-- An integer that serves as decimals, or the default when it is negative. -/
def acceptDecimals
    (rendering : Rendering)
    (decimals : Int) :
    Nat :=
  if 0 ≤ decimals then decimals.toNat else rendering.defaultDecimals

/-- The decimals that a received value tells, or the default when it tells none. -/
def decimals
    (rendering : Rendering)
    (given : Json) :
    Except Fault Nat :=
  match given with
  | .int value => .ok (rendering.acceptDecimals value)
  | .double .nan => .ok rendering.defaultDecimals
  | .double value =>
    match value.truncate? with
    | some whole => .ok (rendering.acceptDecimals whole)
    | none => .error .infiniteInteger
  | .text written =>
    match Text.readInteger written with
    | some value => .ok (rendering.acceptDecimals value)
    | none => .ok rendering.defaultDecimals
  | _ => .ok rendering.defaultDecimals

/-- The text of an amount, converted or not. -/
def convert
    (rendering : Rendering)
    (given : Json)
    (decimals : Int) :
    Except Fault String :=
  if rendering.convertUnits then
    Amount.normalize given decimals
  else
    Amount.read given >>= Amount.print

/--
The text of a balance.  What is no amount is zero, unless it holds an integer that
is too long to be named in a report.
-/
def amount
    (rendering : Rendering)
    (given : Json)
    (decimals : Int) :
    Except Fault String :=
  match rendering.convert given decimals with
  | .ok text => .ok text
  | .error fault =>
    if fault.kind = .value then
      if given.isShowable then .ok "0" else .error .digitLimit
    else
      .error fault

/-- The fields of a model that should be texts and are not, in alphabetical order. -/
def notTexts
    (fields : List (String × Json)) :
    List String :=
  fields.filterMap fun (name, value) =>
    match value with
    | .text _ => none
    | _ => some name

/-- Two values that have to be texts in a model; the names come in alphabetical order. -/
def requireTexts
    (model : String)
    (first second : String × Json) :
    Except Fault (String × String) :=
  match first.2, second.2 with
  | .text left, .text right => .ok (left, right)
  | _, _ => .error (.invalidModel model (notTexts [first, second]))

/-- A value that has to be a text in a model. -/
def requireText
    (model name : String)
    (value : Json) :
    Except Fault String :=
  match value with
  | .text written => .ok written
  | _ => .error (.invalidModel model [name])

/-- What is told about a token, with defaults for a missing symbol and name. -/
def tokenMetadata
    (symbol : Json)
    (decimals : Nat)
    (name : Json) :
    Except Fault TokenMetadata := do
  let (name, symbol) ← requireTexts "TokenMetadata"
    ("name", name.orElse (.text unknownTokenName))
    ("symbol", symbol.orElse (.text unknownSymbol))
  return { symbol, decimals, name }

/-- A token balance out of its parts. -/
def token
    (rendering : Rendering)
    (mint amount : Json)
    (decimals : Nat)
    (symbol name : Json) :
    Except Fault TokenBalance := do
  let balance ← rendering.amount amount decimals
  let metadata ← tokenMetadata symbol decimals name
  let mint ← requireText "TokenBalance" "mint" mint
  return { mint, balance, metadata }

/-- A non-fungible token out of its parts, with defaults for missing names. -/
def nft
    (mint : Json)
    (tokenId : String)
    (collection name image : Json) :
    Except Fault NftBalance := do
  let collection ← requireText "NftCollection" "name"
    (collection.orElse (.text unknownCollectionName))
  let (image, name) ← requireTexts "NftMetadata"
    ("image", image.orElse (.text ""))
    ("name", name.orElse (.text unknownNftName))
  let mint ← requireText "NftBalance" "mint" mint
  return { mint, tokenId, collection, name, image }

/-- The address of a picture, which may come in several renditions. -/
def imageLink
    (image : Json) :
    Json :=
  match image with
  | .object _ =>
    (image.getD "cachedUrl").orElse
      ((image.getD "originalUrl").orElse ((image.getD "thumbnailUrl").orElse (.text "")))
  | _ => image.orElse (.text "")

/-- The text of a token's number; a missing one is empty. -/
def tokenIdText
    (given : Json) :
    Except Fault String :=
  (given.orElse (.text "")).print

/-- A token that an indexer listed. -/
def indexedToken
    (rendering : Rendering)
    (listed : IndexedToken) :
    Except Fault TokenBalance := do
  let metadata := listed.metadata.orEmpty
  let decimals ← rendering.decimals (← metadata.lookup "decimals")
  rendering.token listed.contract listed.balance decimals
    (metadata.getD "symbol") (metadata.getD "name")

/-- A token that a node listed. -/
def nodeToken
    (rendering : Rendering)
    (listed : Json) :
    Except Fault TokenBalance := do
  let decimals ← rendering.decimals (← listed.lookup "decimals")
  let mint ← listed.member "contractAddress"
  rendering.token mint (listed.getD "balance") decimals
    (listed.getD "symbol") (listed.getD "name")

/-- A token account of Solana. -/
def accountToken
    (rendering : Rendering)
    (account : TokenAccount) :
    Except Fault TokenBalance := do
  let metadata := account.metadata.orEmpty
  let decimals ← rendering.decimals account.decimals
  let balance ← rendering.amount account.amount decimals
  let symbol ← metadata.lookup "symbol"
  let told ← tokenMetadata symbol decimals (metadata.getD "name")
  let mint ← requireText "TokenBalance" "mint" account.mint
  return { mint, balance, metadata := told }

/-- The name of a collection, from the first of three places that tells one. -/
def collectionName
    (collection market contract : Json) :
    Except Fault Json := do
  let own ← collection.lookup "name"
  if own.isPresent then
    return own
  let listed ← market.lookup "collectionName"
  return listed.orElse (contract.getD "name")

/-- A non-fungible token that an indexer listed. -/
def indexedNft
    (listed : Json) :
    Except Fault NftBalance := do
  let contract := (← listed.lookup "contract").orEmpty
  let collection := (listed.getD "collection").orEmpty
  let market := (← contract.lookup "openSeaMetadata").orEmpty
  let mint ← contract.lookupOr "address" (.text "")
  let tokenId ← tokenIdText (listed.getD "tokenId")
  let collectionName ← collectionName collection market contract
  nft mint tokenId collectionName (listed.getD "name") (imageLink (listed.getD "image"))

/-- A non-fungible token that a node listed. -/
def nodeNft
    (listed : Json) :
    Except Fault NftBalance := do
  let mint := (← listed.lookup "contractAddress").orElse (.text "")
  let tokenId ← tokenIdText (listed.getD "tokenId")
  nft mint tokenId (listed.getD "collectionName") (listed.getD "name")
    (imageLink (listed.getD "image"))

/-- A non-fungible token of Solana, whose link stands in for its picture. -/
def solanaNft
    (listed : Json) :
    Except Fault NftBalance := do
  let mint := (← listed.lookup "mint").orElse (.text "")
  nft mint "" (listed.getD "collectionName") (listed.getD "name")
    ((listed.getD "image").orElse (listed.getD "uri"))

/-- The balances that a payload reports. -/
def balances
    (rendering : Rendering)
    (payload : Payload)
    (config : ChainConfig) :
    Except Fault Balances :=
  match rendering.family, payload with
  | .evm, .indexed native tokens nfts _ => do
    let native ← rendering.amount native config.nativeDecimals
    let tokens ← tokens.mapM rendering.indexedToken
    let nfts ← nfts.mapM indexedNft
    return { native, tokens, nfts }
  | .evm, .node native tokens nfts _ => do
    let native ← rendering.amount native config.nativeDecimals
    let tokens ← tokens.mapM rendering.nodeToken
    let nfts ← nfts.mapM nodeNft
    return { native, tokens, nfts }
  | .solana, .solana native accounts nfts _ => do
    let tokens ← accounts.mapM rendering.accountToken
    let native ← rendering.amount native config.nativeDecimals
    let nfts ← nfts.mapM solanaNft
    return { native, tokens, nfts }
  | family, payload => .error (.cannotMap family payload.kindName)

/-- Whether a fee was answered. -/
def isAnswered : Json → Bool
  | .null => false
  | .text written => written ≠ ""
  | _ => true

/-- The price of gas: the highest fee goes before the plain price, and zero stands for neither. -/
def gasPrice
    (fee : RawFee) :
    Except Fault String :=
  if isAnswered fee.maxFee then
    Amount.read fee.maxFee >>= Amount.print
  else if isAnswered fee.gasPrice then
    Amount.read fee.gasPrice >>= Amount.print
  else
    .ok "0"

end Rendering

end Holdings
