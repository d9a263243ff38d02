import Holdings.Backend.Basic
import Holdings.Proofs.Network.Within

/-!
# The calls of the backends

Each part of the balances of a wallet is asked for with methods of its own, and
a backend sends all its calls to its own addresses.  What backends record beside
that are warnings about parts that failed.
-/

namespace Holdings

/-! ## Kinds of calls -/

/-- A call of one method at one endpoint. -/
def Call.IsRpc
    (channel : Channel)
    (url method : String) :
    Call → Prop
  | .rpc usedChannel usedUrl usedMethod _ =>
      usedChannel = channel ∧ usedUrl = url ∧ usedMethod = method
  | .page _ _ => False

/-- A page of the listing at an address. -/
def Call.IsPage
    (url : String) :
    Call → Prop
  | .page usedUrl _ => usedUrl = url
  | .rpc _ _ _ _ => False

/-- A call of any method at one endpoint. -/
def Call.IsSentTo
    (channel : Channel)
    (url : String) :
    Call → Prop
  | .rpc usedChannel usedUrl _ _ => usedChannel = channel ∧ usedUrl = url
  | .page _ _ => False

theorem Call.IsRpc.isSentTo
    {channel : Channel}
    {url method : String}
    {call : Call}
    (isRpc : call.IsRpc channel url method) :
    call.IsSentTo channel url := by
  cases call with
  | rpc usedChannel usedUrl usedMethod params =>
      exact ⟨isRpc.1, isRpc.2.1⟩
  | page usedUrl query =>
      exact isRpc

open Fetch

variable {α β γ : Type} {calls : Call → Prop} {events : Event → Prop}

/-! ## Transports -/

namespace Transport

theorem within_send
    (transport : Transport)
    (endpoint method : String)
    (params : Json) :
    (transport.send endpoint method params).Within
      (Call.IsRpc transport.channel endpoint method) events := by
  apply Within.bind
  · exact Within.ask ⟨rfl, rfl, rfl⟩
  · intro reply
    exact Within.lift _

theorem within_rpc
    (transport : Transport)
    (endpoint method : String)
    (params : Json) :
    (transport.rpc endpoint method params).Within
      (Call.IsRpc transport.channel endpoint method) events := by
  apply Within.bind
  · exact transport.within_send endpoint method params
  · intro response
    exact Within.lift _

end Transport

/-! ## Nodes of EVM chains -/

namespace Backend.EvmNode

theorem within_nativeBalance
    (node : EvmNode)
    (transport : Transport)
    (address : Json) :
    (node.nativeBalance transport address).Within
      (Call.IsRpc transport.channel node.endpoint "eth_getBalance") events := by
  apply Within.bind
  · exact transport.within_rpc _ _ _
  · intro result
    apply Within.lift_bind
    intro amount
    exact Within.lift _

theorem within_tokens
    (node : EvmNode)
    (transport : Transport)
    (address : Json) :
    (node.tokens transport address).Within
      (Call.IsRpc transport.channel node.endpoint "qn_getWalletTokenBalance") events := by
  unfold tokens
  split
  · apply Within.bind
    · exact transport.within_rpc _ _ _
    · intro result
      exact Within.lift _
  · exact Within.pure _

theorem within_nfts
    (node : EvmNode)
    (transport : Transport)
    (address : Json) :
    (node.nfts transport address).Within
      (Call.IsRpc transport.channel node.endpoint "qn_fetchNFTs") events := by
  unfold nfts
  split
  · apply Within.bind
    · exact transport.within_rpc _ _ _
    · intro result
      exact Within.lift _
  · exact Within.pure _

end Backend.EvmNode

/-! ## Indexers -/

namespace Evm.Alchemy

theorem within_send
    (client : Alchemy)
    (method : String)
    (params : List Json) :
    (client.send method params).Within
      (Call.IsRpc .client client.rpcUrl method) events := by
  apply Within.bind
  · exact Within.ask ⟨rfl, rfl, rfl⟩
  · intro reply
    exact Within.lift _

theorem within_nodeCall
    (client : Alchemy)
    (method : String)
    (params : List Json) :
    (client.nodeCall method params).Within
      (Call.IsRpc .client client.rpcUrl method) events := by
  apply Within.bind
  · exact client.within_send method params
  · intro envelope
    exact Within.lift _

theorem within_nodeQuantity
    (client : Alchemy)
    (method : String)
    (params : List Json) :
    (client.nodeQuantity method params).Within
      (Call.IsRpc .client client.rpcUrl method) events := by
  apply Within.bind
  · exact client.within_nodeCall method params
  · intro answer
    exact Within.lift _

theorem within_indexerCall
    (client : Alchemy)
    (method : String)
    (params : List Json) :
    (client.indexerCall method params).Within
      (Call.IsRpc .client client.rpcUrl method) events := by
  apply Within.bind
  · exact client.within_send method params
  · intro envelope
    exact Within.lift _

theorem within_balance
    (client : Alchemy)
    (address : Json) :
    (client.balance address).Within
      (Call.IsRpc .client client.rpcUrl "eth_getBalance") events := by
  apply Within.lift_bind
  intro account
  apply Within.bind
  · exact client.within_nodeQuantity _ _
  · intro quantity
    exact Within.lift _

theorem within_tokenBalances
    (client : Alchemy)
    (address : Json) :
    (client.tokenBalances address).Within
      (Call.IsRpc .client client.rpcUrl "alchemy_getTokenBalances") events := by
  apply Within.bind
  · exact client.within_indexerCall _ _
  · intro result
    exact Within.lift _

theorem within_tokenMetadata
    (client : Alchemy)
    (contract : Json) :
    (client.tokenMetadata contract).Within
      (Call.IsRpc .client client.rpcUrl "alchemy_getTokenMetadata") events := by
  apply Within.bind
  · exact client.within_indexerCall _ _
  · intro result
    exact Within.pure _

/-- However many pages are allowed, all of them belong to one listing. -/
theorem within_nftPages
    (client : Alchemy)
    (allowed : Nat)
    (query : List (String × Json)) :
    (client.nftPages allowed query).Within (Call.IsPage client.nftUrl) events := by
  induction allowed generalizing query with
  | zero =>
      exact Within.pure _
  | succ allowed induction =>
      apply Within.bind
      · exact Within.ask rfl
      · intro reply
        apply Within.lift_bind
        intro page
        apply Within.lift_bind
        intro listed
        apply Within.lift_bind
        intro owned
        dsimp only
        split
        · apply Within.bind
          · exact induction _
          · intro following
            exact Within.pure _
        · exact Within.pure _

theorem within_nftsOf
    (client : Alchemy)
    (address : Json) :
    (client.nftsOf address).Within (Call.IsPage client.nftUrl) events :=
  client.within_nftPages _ _

end Evm.Alchemy

/-! ## Nodes of Solana -/

namespace Backend.SolanaNode

theorem within_nativeBalance
    (node : SolanaNode)
    (transport : Transport)
    (address : Json) :
    (node.nativeBalance transport address).Within
      (Call.IsRpc transport.channel node.endpoint "getBalance") events := by
  apply Within.bind
  · exact transport.within_rpc _ _ _
  · intro result
    apply Within.lift_bind
    intro value
    exact Within.lift _

theorem within_tokenAccounts
    (node : SolanaNode)
    (transport : Transport)
    (address : Json) :
    (node.tokenAccounts transport address).Within
      (Call.IsRpc transport.channel node.endpoint "getTokenAccountsByOwner") events := by
  apply Within.bind
  · exact Within.attempt (transport.within_rpc _ _ _)
  · intro classic
    apply Within.bind
    · exact Within.attempt (transport.within_rpc _ _ _)
    · intro extended
      exact Within.lift _

theorem within_nfts
    (node : SolanaNode)
    (transport : Transport)
    (address : Json) :
    (node.nfts transport address).Within
      (Call.IsRpc transport.channel node.endpoint "getProgramAccounts") events := by
  apply Within.bind
  · exact transport.within_rpc _ _ _
  · intro result
    apply Within.lift_bind
    intro entries
    exact Within.lift _

theorem within_lookupMint
    (node : SolanaNode)
    (transport : Transport)
    (cache : MintCache)
    (mint : Json) :
    (node.lookupMint transport cache mint).Within
      (Call.IsRpc transport.channel node.endpoint "getAccountInfo") events := by
  apply Within.lift_bind
  intro key
  cases cache.get? key with
  | some record =>
      exact Within.pure _
  | none =>
      apply Within.lift_bind
      intro address
      apply Within.bind
      · exact transport.within_rpc _ _ _
      · intro result
        apply Within.lift_bind
        intro value
        split
        · apply Within.lift_bind
          intro data
          apply Within.lift_bind
          intro metadata
          exact Within.pure _
        · exact Within.pure _

end Backend.SolanaNode

end Holdings
