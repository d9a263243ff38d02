import Holdings.Proofs.Backend.Calls
import Holdings.Proofs.Balances.Native
import Holdings.Proofs.Network.Asking
import Holdings.Proofs.Provider.Arises

/-!
# Fees and estimates

Whoever asks a backend for the fees of its network asks the network.  An estimate
comes in two steps: first the transaction is made ready, which may fail over an
unacceptable value and asks nobody, and then the network is asked in any case.
-/

namespace Holdings

open Fetch Outcome

variable {events : Event → Prop}

/-! ## Fees -/

namespace Backend.EvmNode

theorem within_quantity
    (node : EvmNode)
    (transport : Transport)
    (method : String) :
    (node.quantity transport method).Within
      (Call.IsRpc transport.channel node.endpoint method) events := by
  apply Within.bind
  · exact transport.within_rpc _ _ _
  · intro result
    exact Within.lift _

end Backend.EvmNode

theorem Transport.asks_rpc
    (transport : Transport)
    (endpoint method : String)
    (params : Json) :
    (transport.rpc endpoint method params).Asks := by
  have send : (transport.send endpoint method params).Asks := by
    apply (Asks.ask _).bind
    intro reply
    exact Within.lift _
  apply send.bind
  intro response
  exact Within.lift _

namespace Backend.EvmNode

/-- The fees that go with a price. -/
def feesAt
    (node : EvmNode)
    (transport : Transport)
    (price : Nat) :
    Fetch RawFee := do
  match ← (node.quantity transport "eth_maxPriorityFeePerGas").attempt with
  | .ok priority =>
    let priceText ← Amount.print price
    let highest ← Amount.print (price + priority)
    let priorityText ← Amount.print priority
    return ⟨.text priceText, .text highest, .text priorityText⟩
  | .error fault =>
    if fault.kind = .transport then
      let priceText ← Amount.print price
      return ⟨.text priceText, .null, .null⟩
    else
      Fetch.fail fault

theorem fees_eq
    (node : EvmNode)
    (transport : Transport) :
    node.fees transport = node.quantity transport "eth_gasPrice" >>= node.feesAt transport :=
  rfl

theorem within_feesAt
    (node : EvmNode)
    (transport : Transport)
    (price : Nat) :
    (node.feesAt transport price).Within
      (Call.IsSentTo transport.channel node.endpoint) events := by
  apply Within.bind
  · apply Within.attempt
    exact (node.within_quantity transport _).widen fun _ => Call.IsRpc.isSentTo
  · intro answered
    cases answered with
    | ok priority =>
        apply Within.lift_bind
        intro priceText
        apply Within.lift_bind
        intro highest
        apply Within.lift_bind
        intro priorityText
        exact Within.pure _
    | error fault =>
        dsimp only
        split
        · apply Within.lift_bind
          intro priceText
          exact Within.pure _
        · exact Within.fail _

theorem asks_fees
    (node : EvmNode)
    (transport : Transport) :
    (node.fees transport).Asks := by
  have price : (node.quantity transport "eth_gasPrice").Asks := by
    apply (transport.asks_rpc _ _ _).bind
    intro result
    exact Within.lift _
  rw [fees_eq]
  apply price.bind
  intro amount
  exact (node.within_feesAt transport amount).widen fun _ _ => trivial

end Backend.EvmNode

namespace Evm.Alchemy

theorem asks_nodeQuantity
    (client : Alchemy)
    (method : String)
    (params : List Json) :
    (client.nodeQuantity method params).Asks := by
  have send : (client.send method params).Asks := by
    apply (Asks.ask _).bind
    intro reply
    exact Within.lift _
  have call : (client.nodeCall method params).Asks := by
    apply send.bind
    intro envelope
    exact Within.lift _
  apply call.bind
  intro answer
  exact Within.lift _

theorem within_priorityFee
    (client : Alchemy) :
    client.priorityFee.Within (Call.IsSentTo .client client.rpcUrl) events := by
  apply Within.bind
  · apply Within.attempt
    exact (client.within_nodeQuantity _ _).widen fun _ => Call.IsRpc.isSentTo
  · intro answered
    split
    · exact Within.pure _
    · apply Within.bind
      · exact (client.within_nodeCall _ _).widen fun _ => Call.IsRpc.isSentTo
      · intro history
        apply Within.lift_bind
        intro priority
        exact Within.pure _
    · exact Within.fail _

theorem within_baseFee
    (client : Alchemy) :
    client.baseFee.Within (Call.IsSentTo .client client.rpcUrl) events := by
  apply Within.bind
  · exact (client.within_nodeCall _ _).widen fun _ => Call.IsRpc.isSentTo
  · intro block
    exact Within.lift _

/-- The fees that go with a price. -/
def feesAt
    (client : Alchemy)
    (price : NodeAnswer) :
    Fetch RawFee := do
  match ← client.priorityFee.attempt with
  | .error _ => return ⟨.text (← price.print), .null, .null⟩
  | .ok priority =>
    let base ← client.baseFee
    let highest ← highestFee base priority.value
    return ⟨.text (← price.print), highest, .text (← priority.print)⟩

theorem fees_eq
    (client : Alchemy) :
    client.fees = client.nodeQuantity "eth_gasPrice" [] >>= client.feesAt :=
  rfl

theorem within_feesAt
    (client : Alchemy)
    (price : NodeAnswer) :
    (client.feesAt price).Within (Call.IsSentTo .client client.rpcUrl) events := by
  apply Within.bind
  · exact client.within_priorityFee.attempt
  · intro answered
    cases answered with
    | error fault =>
        apply Within.lift_bind
        intro priceText
        exact Within.pure _
    | ok priority =>
        apply Within.bind
        · exact client.within_baseFee
        · intro base
          apply Within.lift_bind
          intro highest
          apply Within.lift_bind
          intro priceText
          apply Within.lift_bind
          intro priorityText
          exact Within.pure _

theorem asks_fees
    (client : Alchemy) :
    client.fees.Asks := by
  rw [fees_eq]
  apply (client.asks_nodeQuantity _ _).bind
  intro price
  exact (client.within_feesAt price).widen fun _ _ => trivial

end Evm.Alchemy

theorem Backend.SolanaNode.asks_fees
    (node : SolanaNode)
    (transport : Transport) :
    (node.fees transport).Asks := by
  apply (transport.asks_rpc _ _ _).bind
  intro result
  apply Within.lift_bind
  intro priority
  apply Within.lift_bind
  intro price
  apply Within.lift_bind
  intro priorityText
  exact Within.pure _

/-- No backend tells the fees without asking. -/
theorem Backend.asks_fees
    (backend : Backend)
    (transport : Transport) :
    (backend.fees transport).Asks := by
  cases backend with
  | indexer client =>
      exact client.asks_fees
  | evmNode node =>
      exact node.asks_fees transport
  | solanaNode node cache =>
      exact node.asks_fees transport

/-! ## Estimates -/

/-- Null or a text. -/
def Json.IsTextOrNull
    (value : Json) :
    Prop :=
  value = .null ∨ ∃ written, value = .text written

/-- A transaction with a text as its sender; recipient and data are texts, if they are there. -/
structure Json.IsTransaction
    (transaction : Json) :
    Prop where
  sender : ∃ written, transaction.member "from" = .ok (.text written)
  recipient : (transaction.getD "to").IsTextOrNull
  data : (transaction.getD "data").IsTextOrNull

namespace Evm

theorem failsOnlyWith_checkedAddress
    (written : String) :
    FailsOnlyWith .value (checkedAddress (.text written)) := by
  apply FailsOnlyWith.bind
  · cases digits : hexDigitsOf? written with
    | some digits =>
        simp only [toHexText, digits]
        exact FailsOnlyWith.ok _
    | none =>
        simp only [toHexText, digits]
        exact FailsOnlyWith.error rfl
  · intro normalized _
    split
    · exact FailsOnlyWith.ok _
    · exact FailsOnlyWith.error (Fault.kind_naming rfl)

theorem failsOnlyWith_callData
    (written : String) :
    FailsOnlyWith .value (callData (.text written)) := by
  cases digits : hexDigitsOf? written with
  | some digits =>
      simp only [callData, digits]
      exact FailsOnlyWith.ok _
  | none =>
      simp only [callData, digits]
      exact FailsOnlyWith.error rfl

/-- A member of a transaction that is made ready; there is none when nothing was given. -/
def readyMember
    (isGiven : Bool)
    (name : String)
    (written : Except Fault String) :
    Except Fault (List (String × Json)) := do
  if isGiven then
    return [(name, .text (← written))]
  else
    return []

theorem failsOnlyWith_readyMember
    {isGiven : Bool}
    {name : String}
    {written : Except Fault String}
    (failsOnly : isGiven = true → FailsOnlyWith .value written) :
    FailsOnlyWith .value (readyMember isGiven name written) := by
  cases isGiven with
  | true =>
      apply (failsOnly rfl).bind
      intro text _
      exact FailsOnlyWith.ok _
  | false =>
      exact FailsOnlyWith.ok _

/-- The amount of a transaction, as it is written for a node. -/
def readyValue
    (transaction : Json) :
    Except Fault (List (String × Json)) :=
  readyMember (!(transaction.getD "value").isNull) "value" do
    return Text.hexText (← Amount.read (transaction.getD "value"))

theorem failsOnlyWith_readyValue
    (transaction : Json) :
    FailsOnlyWith .value (readyValue transaction) := by
  apply failsOnlyWith_readyMember
  intro _
  apply FailsOnlyWith.bind
  · intro fault refused
    exact Amount.kind_of_read refused
  · intro amount _
    exact FailsOnlyWith.ok _

namespace Alchemy

theorem nodeTransaction_eq
    (transaction : Json) :
    nodeTransaction transaction = (do
      let sender ← transaction.member "from" >>= checkedAddress
      let recipient ← readyMember (transaction.getD "to").isPresent "to"
        (checkedAddress (transaction.getD "to"))
      let value ← readyValue transaction
      let data ← readyMember (transaction.getD "data").isPresent "data"
        (callData (transaction.getD "data"))
      return .object ([("from", .text sender)] ++ recipient ++ data ++ value)) := by
  cases hasRecipient : (transaction.getD "to").isPresent <;>
    cases hasValue : (transaction.getD "value").isNull <;>
      cases hasData : (transaction.getD "data").isPresent <;>
        simp [nodeTransaction, readyMember, readyValue, hasRecipient, hasValue, hasData]

theorem failsOnlyWith_nodeTransaction
    {transaction : Json}
    (isTransaction : transaction.IsTransaction) :
    FailsOnlyWith .value (nodeTransaction transaction) := by
  rcases isTransaction.sender with ⟨sender, named⟩
  rw [nodeTransaction_eq, named]
  apply FailsOnlyWith.bind
  · exact failsOnlyWith_checkedAddress sender
  · intro checkedSender _
    apply FailsOnlyWith.bind
    · apply failsOnlyWith_readyMember
      intro present
      rcases isTransaction.recipient with missing | ⟨recipient, given⟩
      · rw [missing] at present
        cases present
      · rw [given]
        exact failsOnlyWith_checkedAddress recipient
    · intro recipient _
      apply (failsOnlyWith_readyValue transaction).bind
      intro value _
      apply FailsOnlyWith.bind
      · apply failsOnlyWith_readyMember
        intro present
        rcases isTransaction.data with missing | ⟨data, given⟩
        · rw [missing] at present
          cases present
        · rw [given]
          exact failsOnlyWith_callData data
      · intro data _
        exact FailsOnlyWith.ok _

end Alchemy

end Evm

namespace Backend.EvmNode

theorem nodeTransaction_eq
    (transaction : Json) :
    nodeTransaction transaction = (do
      let sender ← transaction.member "from"
      let value ← Evm.readyValue transaction
      return .object ([("from", sender)] ++ presentMember transaction "to" ++
        presentMember transaction "data" ++ value)) := by
  cases hasValue : (transaction.getD "value").isNull <;>
    simp [nodeTransaction, Evm.readyMember, Evm.readyValue, hasValue]

theorem failsOnlyWith_nodeTransaction
    {transaction : Json}
    (isTransaction : transaction.IsTransaction) :
    FailsOnlyWith .value (nodeTransaction transaction) := by
  rcases isTransaction.sender with ⟨sender, named⟩
  rw [nodeTransaction_eq, named]
  apply (FailsOnlyWith.ok _).bind
  intro given _
  apply (Evm.failsOnlyWith_readyValue transaction).bind
  intro value _
  exact FailsOnlyWith.ok _

end Backend.EvmNode

namespace Backend

/-- The parameters with which a backend asks what a transaction needs. -/
def prepare
    (backend : Backend)
    (transaction : Json) :
    Except Fault (List Json) :=
  match backend with
  | .indexer _ => do
    let prepared ← Evm.Alchemy.nodeTransaction transaction
    return [prepared, .text "latest"]
  | .evmNode _ => do
    let prepared ← EvmNode.nodeTransaction transaction
    return [prepared]
  | .solanaNode _ _ => do
    let data ← transaction.lookup "data"
    if data.isPresent then
      return [data, .object [("encoding", .text "base64"), ("sigVerify", .bool false),
        ("replaceRecentBlockhash", .bool true)]]
    else
      throw .transactionRequired

/-- Asks what a transaction needs with parameters that are ready. -/
def askEstimate
    (backend : Backend)
    (transport : Transport)
    (chain : ChainId)
    (params : List Json) :
    Fetch String :=
  match backend with
  | .indexer client => do
    let gas ← client.nodeQuantity Evm.estimateMethod params
    gas.print
  | .evmNode node => do
    let result ← node.call transport "eth_estimateGas" params
    let gas ← Amount.read result
    Amount.print gas
  | .solanaNode node _ => do
    let result ← node.call transport "simulateTransaction" params
    SolanaNode.consumedUnits chain result

theorem estimate_eq
    (backend : Backend)
    (transport : Transport)
    (chain : ChainId)
    (transaction : Json) :
    backend.estimate transport chain transaction = (do
      let params ← backend.prepare transaction
      backend.askEstimate transport chain params) := by
  cases backend with
  | indexer client =>
      show client.estimateGas transaction = _
      cases prepared : Evm.Alchemy.nodeTransaction transaction with
      | error fault =>
          simp only [Evm.Alchemy.estimateGas, prepare, prepared]
          rfl
      | ok ready =>
          simp only [Evm.Alchemy.estimateGas, prepare, prepared]
          rfl
  | evmNode node =>
      show node.estimateGas transport transaction = _
      cases prepared : EvmNode.nodeTransaction transaction with
      | error fault =>
          simp only [EvmNode.estimateGas, prepare, prepared]
          rfl
      | ok ready =>
          simp only [EvmNode.estimateGas, prepare, prepared]
          rfl
  | solanaNode node cache =>
      show node.estimateUnits transport chain transaction = _
      rw [SolanaNode.estimateUnits, prepare, liftM_bind, bind_assoc]
      congr 1
      funext data
      by_cases present : data.isPresent
      · rw [if_pos present, if_pos present]
        rfl
      · rw [if_neg present, if_neg present]
        rfl

theorem asks_askEstimate
    (backend : Backend)
    (transport : Transport)
    (chain : ChainId)
    (params : List Json) :
    (backend.askEstimate transport chain params).Asks := by
  cases backend with
  | indexer client =>
      apply (client.asks_nodeQuantity _ _).bind
      intro gas
      exact Within.lift _
  | evmNode node =>
      apply (transport.asks_rpc _ _ _).bind
      intro result
      apply Within.lift_bind
      intro gas
      exact Within.lift _
  | solanaNode node cache =>
      apply (transport.asks_rpc _ _ _).bind
      intro result
      exact Within.lift _

@[simp]
theorem prepare_withoutCache
    (backend : Backend)
    (transaction : Json) :
    backend.withoutCache.prepare transaction = backend.prepare transaction := by
  cases backend <;> rfl

/-- Making a transaction ready fails over unacceptable values only. -/
theorem failsOnlyWith_prepare
    (backend : Backend)
    {transaction : Json}
    (isTransaction : transaction.IsTransaction) :
    FailsOnlyWith .value (backend.prepare transaction) := by
  cases backend with
  | indexer client =>
      apply (Evm.Alchemy.failsOnlyWith_nodeTransaction isTransaction).bind
      intro prepared _
      exact FailsOnlyWith.ok _
  | evmNode node =>
      apply (EvmNode.failsOnlyWith_nodeTransaction isTransaction).bind
      intro prepared _
      exact FailsOnlyWith.ok _
  | solanaNode node cache =>
      rcases isTransaction.sender with ⟨sender, named⟩
      apply FailsOnlyWith.bind
      · cases transaction with
        | object members =>
            exact FailsOnlyWith.ok _
        | null =>
            cases named
        | bool value =>
            cases named
        | int value =>
            cases named
        | double value =>
            cases named
        | text written =>
            cases named
        | array items =>
            cases named
      · intro data _
        split
        · exact FailsOnlyWith.ok _
        · exact FailsOnlyWith.error rfl

end Backend

end Holdings
