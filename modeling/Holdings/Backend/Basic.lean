import Holdings.Backend.EvmNode
import Holdings.Backend.Indexer
import Holdings.Backend.SolanaNode

/-!
# Backends

A backend is what answers the questions about one tier of a chain: an indexer,
a node of an EVM chain, or a node of Solana together with the metadata that was
already found.  Nothing is converted or filled in here.
-/

namespace Holdings

/-- What answers the questions about one tier of a chain. -/
inductive Backend where
  | indexer (client : Evm.Alchemy)
  | evmNode (node : Backend.EvmNode)
  | solanaNode (node : Backend.SolanaNode) (cache : Backend.MintCache)
deriving DecidableEq, Repr, Inhabited

namespace Backend

/-- Asks for the balances of a wallet; the backend afterwards keeps what it found. -/
def balances
    (backend : Backend)
    (transport : Transport)
    (chain : ChainId)
    (address : Json)
    (tier : Tier) :
    Fetch (Payload × Backend) :=
  match backend with
  | .indexer client => do
    let payload ← indexerBalances chain client address tier
    return (payload, backend)
  | .evmNode node => do
    let payload ← node.balances transport chain address tier
    return (payload, backend)
  | .solanaNode node cache => do
    let (payload, kept) ← node.balances transport cache chain address tier
    return (payload, .solanaNode node kept)

/-- Asks for the fees of the network. -/
def fees
    (backend : Backend)
    (transport : Transport) :
    Fetch RawFee :=
  match backend with
  | .indexer client => client.fees
  | .evmNode node => node.fees transport
  | .solanaNode node _ => node.fees transport

/-- Asks what a transaction would need. -/
def estimate
    (backend : Backend)
    (transport : Transport)
    (chain : ChainId)
    (transaction : Json) :
    Fetch String :=
  match backend with
  | .indexer client => client.estimateGas transaction
  | .evmNode node => node.estimateGas transport transaction
  | .solanaNode node _ => node.estimateUnits transport chain transaction

end Backend

end Holdings
