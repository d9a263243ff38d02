import Holdings.Backend.Slots
import Holdings.Evm.Alchemy

/-!
# EVM balances from an indexer

The indexer lists the tokens of a wallet by contract; a second call for each of
them tells its symbol, name and decimals.
-/

namespace Holdings.Backend

open Holdings.Evm

/-- A listed token with the contract that its metadata is asked for. -/
structure ListedToken where
  contract : Json
  balance : Json
deriving Inhabited, Repr

/--
The tokens of a listing that name a contract.  A listing that is no list, and an entry
that is passed over but cannot be named in a report, are faults.
-/
def listedTokens :
    List Json → Except Fault (List ListedToken)
  | [] => .ok []
  | entry :: rest =>
    if (entry.getD "contractAddress").isPresent then do
      let tokens ← listedTokens rest
      return ⟨entry.getD "contractAddress", entry.getD "tokenBalance"⟩ :: tokens
    else if entry.isShowable then
      listedTokens rest
    else
      .error .digitLimit

/-- The entries of a token listing; a missing one and an empty one have none. -/
def listingEntries
    (listing : Option Json) :
    Except Fault (List Json) :=
  match listing with
  | some value => if value.isPresent then value.elements else .ok []
  | none => .ok []

/-- A listed token with what was told about it; null when the look-up failed. -/
def indexedToken
    (token : ListedToken)
    (metadata : Option Json) :
    IndexedToken :=
  ⟨token.contract, token.balance, metadata.getD .null⟩

/-- Asks an indexer for the balances of a wallet. -/
def indexerBalances
    (chain : ChainId)
    (client : Alchemy)
    (address : Json)
    (tier : Tier) :
    Fetch Payload := do
  let slots ← fetchSlots chain tier
    (client.balance address) (client.tokenBalances address) (client.nftsOf address)
  let entries ← listingEntries slots.tokens
  let tokens ← listedTokens entries
  let metadata ← fetchEach chain tier
    (fun token : ListedToken => client.tokenMetadata token.contract) tokens
  return .indexed (Json.ofText? slots.native) (tokens.zipWith indexedToken metadata)
    (slots.nfts.getD []) (withMetadataPart slots.failed metadata)

end Holdings.Backend
