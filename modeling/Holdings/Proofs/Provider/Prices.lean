import Holdings.Proofs.Backend.Prices
import Holdings.Proofs.Provider.Failures

/-!
# The price of gas, with or without a priority fee

A provider of an EVM chain that is told a price is meant to answer with a price, whatever becomes
of the question for a priority fee.  It does so as far as all that is told can be printed: over a
node, where the priority fee is an amount or a fault of the transport; over an indexer, where the
client finds no priority fee or gives an integer for it, or where the latest block has no base fee.

What is malformed in another way reaches the caller as a fault, though a price was told.
-/

namespace Holdings.Provider

open Fetch Outcome Text

variable {provider built : Provider} {tier : Tier} {backend : Backend}
variable {network : Network} {log : Log} {told : ToldFees}

/-- The price of gas is made of what the backend is told. -/
theorem run_gasPrice_of_tellsFees
    (found : provider.backendOf tier = .ok (backend, built))
    (tells : backend.TellsFees provider.transport network log told) :
    ∃ later grown,
      (provider.gasPrice (.text tier.name)).run network log =
        (.ok (told.outcome, later), grown) := by
  rcases Backend.run_fees_of_tellsFees tells with ⟨grown, ended⟩
  rw [Provider.gasPrice, Tier.read_name]
  cases made : told.raw with
  | error fault =>
      rw [made] at ended
      refine ⟨built, grown, ?_⟩
      rw [ToldFees.outcome, made]
      exact run_bind_of_ok (run_unchanged_of_error found ended) _
  | ok fee =>
      rw [made] at ended
      have job : (unchanged (fun backend => backend.fees provider.transport) backend).run
          network log = (.ok (fee, backend), grown) :=
        run_bind_of_ok ended _
      refine ⟨built.keep tier backend, grown, ?_⟩
      rw [ToldFees.outcome, made]
      exact run_bind_of_ok (run_withBackend_of_ok found job) _

/--
Where a backend of an EVM chain is told a price, the provider answers with the price that is meant
exactly when what is told is settled.
-/
theorem gasPrice_eq_promised_iff
    (found : provider.backendOf tier = .ok (backend, built))
    (tells : backend.TellsFees provider.transport network log told) :
    (∃ later grown,
        (provider.gasPrice (.text tier.name)).run network log =
          (.ok (.ok (decimalText told.promised), later), grown)) ↔
      told.IsSettled := by
  rcases run_gasPrice_of_tellsFees found tells with ⟨later, grown, ended⟩
  rw [ended, ← ToldFees.outcome_eq_promised_iff]
  simp

/-- The result of a method, in the envelope of a node. -/
def enveloped
    (result : Json) :
    Reply :=
  .value (.object [("jsonrpc", .text "2.0"), ("id", .int 1), ("result", result)])

/-- A network with a price of sixteen, something for a priority fee, and a latest block. -/
def feeNetwork
    (tip block : Json) :
    Network
  | _, .rpc _ _ "eth_gasPrice" _ => enveloped (.text "0x10")
  | _, .rpc _ _ "eth_maxPriorityFeePerGas" _ => enveloped tip
  | _, _ => enveloped block

/-- The price of gas on the main network, over one service. -/
def priceOf
    (service : Service)
    (tip block : Json) :
    Option (Except Fault String) :=
  (((soleProvider service).gasPrice (.text "mainnet")).run (feeNetwork tip block)
    .empty).1.toOption.map Prod.fst

/-- The backend over the indexer of Ethereum. -/
def mainIndexer : Backend :=
  .indexer ⟨"eth-mainnet", "k"⟩

/-- A block with a base fee. -/
def feeBlock : Json :=
  .object [("baseFeePerGas", .text "0x7")]

theorem gasPrice_eq_promised_both :
    ((soleProvider .rpc).backendOf .mainnet =
        .ok (publicNode, (soleProvider .rpc).keep .mainnet publicNode) ∧
      publicNode.TellsFees .standard (feeNetwork (.text "0x5") feeBlock) .empty
        (.node 16 (.ok 5)) ∧
      ∃ later grown,
        ((soleProvider .rpc).gasPrice (.text "mainnet")).run
          (feeNetwork (.text "0x5") feeBlock) .empty = (.ok (.ok "21", later), grown)) ∧
    ((soleProvider .alchemy).backendOf .mainnet =
        .ok (mainIndexer, (soleProvider .alchemy).keep .mainnet mainIndexer) ∧
      mainIndexer.TellsFees .standard (feeNetwork (.text "0x5") feeBlock) .empty
        (.latest 16 (.result (.int 5)) (.int 7)) ∧
      ∃ later grown,
        ((soleProvider .alchemy).gasPrice (.text "mainnet")).run
          (feeNetwork (.text "0x5") feeBlock) .empty = (.ok (.ok "19", later), grown)) := by
  have short (size : Nat) (twoDigits : size < 10 ^ 2) : size < 10 ^ numeralLimit :=
    Nat.lt_of_lt_of_le twoDigits (Nat.pow_le_pow_right (by decide) (by decide))
  constructor
  · have found : (soleProvider .rpc).backendOf .mainnet =
        .ok (publicNode, (soleProvider .rpc).keep .mainnet publicNode) :=
      rfl
    have tells : publicNode.TellsFees .standard (feeNetwork (.text "0x5") feeBlock) .empty
        (.node 16 (.ok 5)) :=
      .node rfl
    exact ⟨found, tells, (gasPrice_eq_promised_iff found tells).2 (.sum (short _ (by decide)))⟩
  · have found : (soleProvider .alchemy).backendOf .mainnet =
        .ok (mainIndexer, (soleProvider .alchemy).keep .mainnet mainIndexer) :=
      rfl
    have tells : mainIndexer.TellsFees .standard (feeNetwork (.text "0x5") feeBlock) .empty
        (.latest 16 (.result (.int 5)) (.int 7)) :=
      .answered rfl rfl rfl
    exact ⟨found, tells, (gasPrice_eq_promised_iff found tells).2
      (.based rfl rfl (short _ (by decide)) (short _ (by decide)))⟩

/-- A text that is no amount, and null beside a base fee, are faults in spite of the price. -/
theorem not_gasPrice_eq_promised_malformed :
    (publicNode.TellsFees .standard (feeNetwork (.text "abc") feeBlock) .empty
        (.node 16 (.error (.invalidAmount (.text "abc")))) ∧
      (ToldFees.node 16 (.error (.invalidAmount (.text "abc")))).promised = 16 ∧
      priceOf .rpc (.text "abc") feeBlock = some (.error (.invalidAmount (.text "abc")))) ∧
    (mainIndexer.TellsFees .standard (feeNetwork .null feeBlock) .empty
        (.latest 16 (.result .null) (.int 7)) ∧
      (ToldFees.latest 16 (.result .null) (.int 7)).promised = 16 ∧
      priceOf .alchemy .null feeBlock = some (.error .wrongShape)) := by
  refine ⟨⟨.node rfl, rfl, rfl⟩, .answered rfl rfl rfl, rfl, rfl⟩

end Holdings.Provider
