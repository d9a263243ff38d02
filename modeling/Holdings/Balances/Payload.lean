import Holdings.Json.Basic

/-!
# Payloads

What the sources of a chain answered about a wallet, before anything is
converted or filled in.  Each kind of source has a shape of its own; a part
that could not be fetched is null or empty and is named in `failed`.
-/

namespace Holdings

/-- A token as an indexer lists it, with what a second call told about it. -/
structure IndexedToken where
  contract : Json
  balance : Json
  metadata : Json
deriving Inhabited, Repr

/-- A token account, with what the metadata account of its mint says. -/
structure TokenAccount where
  mint : Json
  amount : Json
  decimals : Json
  metadata : Json
deriving Inhabited, Repr

/-- What the sources of a chain answered about a wallet. -/
inductive Payload where
  /-- From an indexer of an EVM chain. -/
  | indexed
      (native : Json) (tokens : List IndexedToken) (nfts : List Json) (failed : List String)
  /-- From JSON-RPC calls to a node of an EVM chain. -/
  | node
      (native : Json) (tokens : List Json) (nfts : List Json) (failed : List String)
  /-- From JSON-RPC calls to a node of Solana. -/
  | solana
      (native : Json) (accounts : List TokenAccount) (nfts : List Json) (failed : List String)
deriving Inhabited, Repr

namespace Payload

/-- The name of a kind of payload in messages. -/
def kindName : Payload → String
  | .indexed .. => "EvmSdkRawBalances"
  | .node .. => "EvmRpcRawBalances"
  | .solana .. => "SolanaRpcRawBalances"

/-- The parts that could not be fetched. -/
def failed : Payload → List String
  | .indexed _ _ _ failed => failed
  | .node _ _ _ failed => failed
  | .solana _ _ _ failed => failed

/-- The native balance as the source gave it; null when it could not be fetched. -/
def native : Payload → Json
  | .indexed native _ _ _ => native
  | .node native _ _ _ => native
  | .solana native _ _ _ => native

end Payload

/-- The fees that a source answered; null stands for one that it did not answer. -/
structure RawFee where
  gasPrice : Json
  maxFee : Json
  priorityFee : Json
deriving Inhabited, Repr

end Holdings
