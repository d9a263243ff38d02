import Holdings.Proofs.Backend.Parts

/-!
# What backends do when they are asked for balances

A backend stays at its own addresses and records nothing but warnings about
parts that failed.
-/

namespace Holdings.Backend

open Fetch

/-- The calls to the addresses of a backend. -/
def Reaches
    (transport : Transport)
    (backend : Backend)
    (call : Call) :
    Prop :=
  match backend with
  | .indexer client => call.IsSentTo .client client.rpcUrl ∨ call.IsPage client.nftUrl
  | .evmNode node => call.IsSentTo transport.channel node.endpoint
  | .solanaNode node _ => call.IsSentTo transport.channel node.endpoint

theorem within_indexerBalances
    (transport : Transport)
    (chain : ChainId)
    (client : Evm.Alchemy)
    (address : Json)
    (tier : Tier) :
    (indexerBalances chain client address tier).Within
      (Reaches transport (.indexer client)) (IsPartWarning chain tier) := by
  have sent (method : String) (call : Call)
      (isRpc : call.IsRpc .client client.rpcUrl method) :
      Reaches transport (.indexer client) call :=
    .inl isRpc.isSentTo
  apply Within.bind
  · apply within_fetchSlots
    · exact (client.within_balance address).widen (sent _)
    · exact (client.within_tokenBalances address).widen (sent _)
    · exact (client.within_nftsOf address).widen fun _ => .inr
  · intro slots
    apply Within.bind (Within.lift _)
    intro entries
    apply Within.bind (Within.lift _)
    intro tokens
    apply Within.bind
    · apply within_fetchEach
      intro token
      exact (client.within_tokenMetadata token.contract).widen (sent _)
    · intro metadata
      exact Within.pure _

theorem EvmNode.within_balances
    (node : EvmNode)
    (transport : Transport)
    (chain : ChainId)
    (address : Json)
    (tier : Tier) :
    (node.balances transport chain address tier).Within
      (Reaches transport (.evmNode node)) (IsPartWarning chain tier) := by
  have sent (method : String) (call : Call)
      (isRpc : call.IsRpc transport.channel node.endpoint method) :
      Reaches transport (.evmNode node) call :=
    isRpc.isSentTo
  apply Within.bind
  · apply within_fetchSlots
    · exact (node.within_nativeBalance transport address).widen (sent _)
    · exact (node.within_tokens transport address).widen (sent _)
    · exact (node.within_nfts transport address).widen (sent _)
  · intro slots
    exact Within.pure _

theorem SolanaNode.within_balances
    (node : SolanaNode)
    (transport : Transport)
    (cache : MintCache)
    (chain : ChainId)
    (address : Json)
    (tier : Tier) :
    (node.balances transport cache chain address tier).Within
      (Reaches transport (.solanaNode node cache)) (IsPartWarning chain tier) := by
  have sent (method : String) (call : Call)
      (isRpc : call.IsRpc transport.channel node.endpoint method) :
      Reaches transport (.solanaNode node cache) call :=
    isRpc.isSentTo
  apply Within.bind
  · apply within_fetchSlots
    · exact (node.within_nativeBalance transport address).widen (sent _)
    · exact (node.within_tokenAccounts transport address).widen (sent _)
    · exact (node.within_nfts transport address).widen (sent _)
  · intro slots
    apply Within.bind
    · apply within_fetchEach
      intro entry
      exact (node.within_lookupMint transport cache entry.mint).widen (sent _)
    · intro lookups
      exact Within.pure _

/-- Whatever balances are asked for, a backend makes calls to its own addresses only. -/
theorem within_balances
    (backend : Backend)
    (transport : Transport)
    (chain : ChainId)
    (address : Json)
    (tier : Tier) :
    (backend.balances transport chain address tier).Within
      (Reaches transport backend) (IsPartWarning chain tier) := by
  cases backend with
  | indexer client =>
      apply Within.bind (within_indexerBalances transport chain client address tier)
      intro payload
      exact Within.pure _
  | evmNode node =>
      apply Within.bind (node.within_balances transport chain address tier)
      intro payload
      exact Within.pure _
  | solanaNode node cache =>
      apply Within.bind (node.within_balances transport cache chain address tier)
      rintro ⟨payload, kept⟩
      exact Within.pure _

end Holdings.Backend
