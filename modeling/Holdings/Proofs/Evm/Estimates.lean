import Holdings.Proofs.Evm.Address
import Holdings.Proofs.Evm.Answers
import Holdings.Proofs.Json.Path
import Holdings.Proofs.Schema.Transaction

/-!
# Transactions that are forwarded to be estimated

A transaction may be given as a value of its model or as a plain object, in which what is
absent is left out or null.  Whichever it is, and whoever is asked what it needs, the same
transaction reaches the endpoint, apart from the case of the letters of its addresses, and
a quantity that is answered comes back as its decimal text.
-/

namespace Holdings

open Fetch Outcome Schema Text

/-! ## Drafts -/

/-- A transaction as it is meant, with an amount in any spelling; null stands for no amount. -/
structure Draft where
  sender : String
  recipient : Option String
  data : Option String
  value : Json

namespace Draft

/-- The addresses are addresses and the data is data, where they are given and not empty. -/
structure IsProper
    (draft : Draft) :
    Prop where
  sender : Evm.IsAddress draft.sender
  recipient : ∀ written, draft.recipient = some written → written = "" ∨ Evm.IsAddress written
  data : ∀ written, draft.data = some written → written = "" ∨ Evm.IsCallData written

/-- An object tells a draft; what is absent may be left out or null. -/
structure IsWritten
    (draft : Draft)
    (transaction : Json) :
    Prop where
  sender : transaction.member "from" = .ok (.text draft.sender)
  recipient : transaction.getD "to" = .ofText? draft.recipient
  data : transaction.getD "data" = .ofText? draft.data
  value : transaction.getD "value" = draft.value

/-- A member for a text that is given and not empty. -/
def textMember
    (name : String)
    (spelled : String → String)
    (written? : Option String) :
    List (String × Json) :=
  ((written?.filter (· ≠ "")).map fun written => (name, .text (spelled written))).toList

/-- The transaction as an endpoint is told of it, with addresses in some spelling. -/
def request
    (draft : Draft)
    (spelled : String → String)
    (amount : Nat) :
    Json :=
  .object
    ([("from", .text (spelled draft.sender))] ++ textMember "to" spelled draft.recipient ++
      textMember "data" id draft.data ++
      if draft.value.isNull then [] else [("value", .text (hexText amount))])

variable {draft : Draft} {amount : Nat} {transaction other : Json}

/-! ## Values of the model -/

theorem IsWritten.lookup_eq
    (written : draft.IsWritten transaction)
    (name : String) :
    transaction.lookup name = .ok (transaction.getD name) := by
  rcases Json.exists_members_of_member written.sender with ⟨members, rfl, -⟩
  rfl

/-- Members that are kept where they are not null tell a draft. -/
theorem isWritten_keptMembers
    (draft : Draft) :
    draft.IsWritten
      (.object (("from", .text draft.sender) ::
        (keptMember "to" (.ofText? draft.recipient) ++
          (keptMember "data" (.ofText? draft.data) ++ keptMember "value" draft.value)))) := by
  rcases find?_keptMembers (.ofText? draft.recipient) (.ofText? draft.data) draft.value with
    ⟨toHeld, dataHeld, valueHeld⟩
  exact ⟨rfl, toHeld, dataHeld, valueHeld⟩

/-- The model takes a transaction in however it is written, and gives it out as it was meant. -/
theorem IsWritten.exists_record
    (written : draft.IsWritten transaction)
    (readable : Amount.read draft.value = .ok amount) :
    ∃ record,
      transactionRequest.validate transaction = .ok record ∧
        draft.IsWritten (record.toJson false) := by
  rcases Json.exists_members_of_member written.sender with ⟨members, rfl, sender⟩
  -- Three of the fields may be left out, so that what is held there stands for both spellings.
  have entries :
      acceptEach transactionRequest.fields members =
        [some (⟨"from_address", "from", none⟩, .plain (.text draft.sender)),
          some (⟨"to", "to", some .null⟩, .plain (.ofText? draft.recipient)),
          some (⟨"data", "data", some .null⟩, .plain (.ofText? draft.data)),
          some (⟨"value", "value", some .null⟩, .plain draft.value)] := by
    have taken : Shape.text.accept? (.text draft.sender) = some (.plain (.text draft.sender)) := by
      rw [Shape.accept?]
    unfold transactionRequest
    rw [acceptEach_required sender taken,
      acceptEach_optional written.recipient accept?_text_ofText?,
      acceptEach_optional written.data accept?_text_ofText?,
      acceptEach_optional written.value (accept?_amount readable)]
    rw [acceptEach]
    rfl
  refine ⟨⟨transactionRequest,
    [(⟨"from_address", "from", none⟩, .plain (.text draft.sender)),
      (⟨"to", "to", some .null⟩, .plain (.ofText? draft.recipient)),
      (⟨"data", "data", some .null⟩, .plain (.ofText? draft.data)),
      (⟨"value", "value", some .null⟩, .plain draft.value)]⟩, ?_, ?_⟩
  · rw [Model.validate]
    simp only [entries]
    rfl
  · rw [Record.toJson, Accepted.toJson]
    simp only [entriesToJson_cons_plain]
    rw [entriesToJson, List.append_nil]
    exact draft.isWritten_keptMembers

/-! ## What an endpoint is told -/

/-- However a draft is written, every backend makes the same parameters of it. -/
theorem IsWritten.prepare_eq
    (written : draft.IsWritten transaction)
    (otherWritten : draft.IsWritten other)
    (backend : Backend) :
    backend.prepare other = backend.prepare transaction := by
  -- Each backend looks at members in ways that do not tell what is left out from null.
  cases backend with
  | indexer client =>
      simp only [Backend.prepare, Evm.Alchemy.nodeTransaction_eq, Evm.readyValue, written.sender,
        written.recipient, written.data, written.value, otherWritten.sender,
        otherWritten.recipient, otherWritten.data, otherWritten.value]
  | evmNode node =>
      simp only [Backend.prepare, Backend.EvmNode.nodeTransaction_eq,
        Backend.EvmNode.presentMember, Evm.readyValue, written.sender, written.recipient,
        written.data, written.value, otherWritten.sender, otherWritten.recipient,
        otherWritten.data, otherWritten.value]
  | solanaNode node cache =>
      simp only [Backend.prepare, written.lookup_eq, otherWritten.lookup_eq, written.data,
        otherWritten.data]

theorem IsWritten.estimateGas_eq
    (written : draft.IsWritten transaction)
    (otherWritten : draft.IsWritten other)
    (provider : Provider)
    (tier : Json) :
    provider.estimateGas other tier = provider.estimateGas transaction tier := by
  have sameJob : (fun backend : Backend =>
        backend.estimate provider.transport provider.chain.id other) =
      fun backend => backend.estimate provider.transport provider.chain.id transaction := by
    funext backend
    rw [Backend.estimate_eq, Backend.estimate_eq, written.prepare_eq otherWritten]
  unfold Provider.estimateGas
  rw [sameJob]

theorem isPresent_ofText?
    (written? : Option String) :
    (Json.ofText? written?).isPresent = (written?.filter (· ≠ "")).isSome := by
  cases written? with
  | none =>
      rfl
  | some written =>
      by_cases empty : written = "" <;> simp [Json.ofText?, Json.isPresent, empty]

theorem presentMember_eq
    {name : String}
    {written? : Option String}
    (held : transaction.getD name = .ofText? written?) :
    Backend.EvmNode.presentMember transaction name = textMember name id written? := by
  unfold Backend.EvmNode.presentMember textMember
  dsimp only
  rw [held, isPresent_ofText?]
  cases given : written?.filter (· ≠ "") with
  | none =>
      rfl
  | some written =>
      rcases Option.filter_eq_some_iff.1 given with ⟨rfl, -⟩
      rfl

/-- A text that is not empty is made ready as it is spelled. -/
theorem readyMember_eq
    {name : String}
    {written? : Option String}
    {ready : Json → Except Fault String}
    {spelled : String → String}
    (each : ∀ written, written? = some written → written ≠ "" →
      ready (.text written) = .ok (spelled written)) :
    Evm.readyMember (Json.ofText? written?).isPresent name (ready (.ofText? written?)) =
      .ok (textMember name spelled written?) := by
  unfold textMember
  rw [isPresent_ofText?]
  cases given : written?.filter (· ≠ "") with
  | none =>
      rfl
  | some written =>
      rcases Option.filter_eq_some_iff.1 given with ⟨rfl, notEmpty⟩
      rw [Json.ofText?, each written rfl (of_decide_eq_true notEmpty)]
      rfl

theorem IsWritten.readyValue_eq
    (written : draft.IsWritten transaction)
    (readable : Amount.read draft.value = .ok amount) :
    Evm.readyValue transaction =
      .ok (if draft.value.isNull then [] else [("value", .text (hexText amount))]) := by
  unfold Evm.readyValue Evm.readyMember
  rw [written.value, readable]
  cases draft.value.isNull <;> rfl

/-- A node is told of the transaction as it was given. -/
theorem IsWritten.nodeTransaction_node
    (written : draft.IsWritten transaction)
    (readable : Amount.read draft.value = .ok amount) :
    Backend.EvmNode.nodeTransaction transaction = .ok (draft.request id amount) := by
  rw [Backend.EvmNode.nodeTransaction_eq, written.sender, written.readyValue_eq readable,
    presentMember_eq written.recipient, presentMember_eq written.data]
  rfl

/-- An indexer is told of the transaction with checked addresses. -/
theorem IsWritten.nodeTransaction_indexer
    (written : draft.IsWritten transaction)
    (proper : draft.IsProper)
    (readable : Amount.read draft.value = .ok amount) :
    Evm.Alchemy.nodeTransaction transaction =
      .ok (draft.request Evm.checkedSpelling amount) := by
  have recipient : Evm.readyMember (Json.ofText? draft.recipient).isPresent "to"
      (Evm.checkedAddress (.ofText? draft.recipient)) =
        .ok (textMember "to" Evm.checkedSpelling draft.recipient) := by
    apply readyMember_eq
    intro address given notEmpty
    exact (Evm.checkedAddress_eq ((proper.recipient address given).resolve_left notEmpty)).1
  have data : Evm.readyMember (Json.ofText? draft.data).isPresent "data"
      (Evm.callData (.ofText? draft.data)) = .ok (textMember "data" id draft.data) := by
    apply readyMember_eq
    intro input given notEmpty
    exact Evm.callData_of_isCallData ((proper.data input given).resolve_left notEmpty)
  rw [Evm.Alchemy.nodeTransaction_eq, written.sender, ok_bind,
    (Evm.checkedAddress_eq proper.sender).1, written.recipient, written.data, recipient, data,
    written.readyValue_eq readable]
  rfl

/-! ## What is forwarded -/

/-- A request tells addresses and data where they are given and not empty, and an amount. -/
structure Tells
    (draft : Draft)
    (spelled : String → String)
    (amount : Nat)
    (told : Json) :
    Prop where
  sender : told.get? "from" = some (.text (spelled draft.sender))
  recipient :
    told.get? "to" =
      (draft.recipient.filter (· ≠ "")).map fun written => .text (spelled written)
  data : told.get? "data" = (draft.data.filter (· ≠ "")).map .text
  value : told.get? "value" = if draft.value.isNull then none else some (.text (hexText amount))

theorem tells_request
    (draft : Draft)
    (spelled : String → String)
    (amount : Nat) :
    draft.Tells spelled amount (draft.request spelled amount) := by
  unfold request textMember
  constructor <;> cases draft.recipient.filter (· ≠ "") <;> cases draft.data.filter (· ≠ "") <;>
    cases draft.value.isNull <;> rfl

/-- One transaction is forwarded, whoever is asked what it needs and however it is given. -/
structure IsForwarded
    (draft : Draft)
    (amount : Nat)
    (transaction : Json) :
    Prop where
  /-- As a value of the model it is the same question. -/
  modelled : ∃ record,
    transactionRequest.validate transaction = .ok record ∧
      ∀ (provider : Provider) (tier : Json),
        provider.estimateGas (record.toJson false) tier = provider.estimateGas transaction tier
  /-- With absent members left out or null it is the same question. -/
  rewritten : ∀ other, draft.IsWritten other → ∀ (provider : Provider) (tier : Json),
    provider.estimateGas other tier = provider.estimateGas transaction tier
  contents : ∀ spelled, draft.Tells spelled amount (draft.request spelled amount)
  readsBack : Amount.read (.text (hexText amount)) = .ok amount
  sameLetters : ∀ address,
    address = draft.sender ∨ draft.recipient = some address ∧ address ≠ "" →
      Evm.SameLetters (Evm.checkedSpelling address) address
  node : ∀ (node : Backend.EvmNode) (transport : Transport),
    (node.estimateGas transport transaction).AsksQuantity
      (.rpc transport.channel node.endpoint "eth_estimateGas"
        (.array [draft.request id amount]))
      transport.receive
  indexer : ∀ client : Evm.Alchemy,
    (client.estimateGas transaction).AsksQuantity
      (.rpc .client client.rpcUrl "eth_estimateGas"
        (.array [draft.request Evm.checkedSpelling amount, .text "latest"]))
      Evm.Alchemy.receive

theorem IsWritten.asksQuantity_node
    (written : draft.IsWritten transaction)
    (readable : Amount.read draft.value = .ok amount)
    (node : Backend.EvmNode)
    (transport : Transport) :
    (node.estimateGas transport transaction).AsksQuantity
      (.rpc transport.channel node.endpoint "eth_estimateGas" (.array [draft.request id amount]))
      transport.receive := by
  have steps : node.estimateGas transport transaction =
      transport.rpc node.endpoint "eth_estimateGas" (.array [draft.request id amount]) >>=
        fun result => liftM (Amount.read result >>= Amount.print) := by
    rw [Backend.EvmNode.estimateGas, written.nodeTransaction_node readable, liftM_ok_bind]
    simp only [Backend.EvmNode.call, liftM_bind]
  rw [steps]
  exact transport.asksQuantity _ _ _

theorem IsWritten.asksQuantity_indexer
    (written : draft.IsWritten transaction)
    (proper : draft.IsProper)
    (readable : Amount.read draft.value = .ok amount)
    (client : Evm.Alchemy) :
    (client.estimateGas transaction).AsksQuantity
      (.rpc .client client.rpcUrl "eth_estimateGas"
        (.array [draft.request Evm.checkedSpelling amount, .text "latest"]))
      Evm.Alchemy.receive := by
  have noBlock : Evm.estimateMethod ≠ Evm.blockMethod := by
    decide
  rw [Evm.Alchemy.estimateGas, written.nodeTransaction_indexer proper readable, liftM_ok_bind]
  exact client.asksQuantity noBlock _

/-- Every estimate of a proper transaction forwards it and answers in decimal. -/
theorem isForwarded
    (proper : draft.IsProper)
    (written : draft.IsWritten transaction)
    (readable : Amount.read draft.value = .ok amount) :
    draft.IsForwarded amount transaction where
  modelled := by
    rcases written.exists_record readable with ⟨record, taken, recordWritten⟩
    exact ⟨record, taken, written.estimateGas_eq recordWritten⟩
  rewritten := by
    intro other otherWritten
    exact written.estimateGas_eq otherWritten
  contents spelled := draft.tells_request spelled amount
  readsBack := Amount.read_hexText amount
  sameLetters := by
    rintro address (rfl | ⟨given, notEmpty⟩)
    · exact (Evm.checkedAddress_eq proper.sender).2
    · exact (Evm.checkedAddress_eq ((proper.recipient address given).resolve_left notEmpty)).2
  node := written.asksQuantity_node readable
  indexer := written.asksQuantity_indexer proper readable

/-! ## A transaction without recipient -/

/-- A draft that creates a contract, with a zero in front of its amount. -/
def sample : Draft where
  sender := hexNumeral (List.replicate 40 'A')
  recipient := none
  data := some "0x00ff"
  value := .text "0x0a"

/-- The draft in an object, in an order of its own and with null for the recipient. -/
def sampleTransaction : Json :=
  .object
    [("value", .text "0x0a"), ("to", .null), ("data", .text "0x00ff"),
      ("from", .text (hexNumeral (List.replicate 40 'A')))]

theorem isForwarded_sample :
    sample.IsProper ∧ sample.IsWritten sampleTransaction ∧
      Amount.read sample.value = .ok 10 ∧ sample.IsForwarded 10 sampleTransaction := by
  have proper : sample.IsProper := by
    constructor
    · exact ⟨List.replicate 40 'A', rfl, rfl, by decide⟩
    · intro written given
      cases given
    · intro written given
      cases given
      exact Or.inr ⟨['0', '0', 'f', 'f'], rfl, rfl, List.all_iff_forall_prop.1 (by decide)⟩
  have written : sample.IsWritten sampleTransaction :=
    ⟨rfl, rfl, rfl, rfl⟩
  have areDigits : AreHexDigits ['0', 'a'] := by
    decide
  have readable : Amount.read sample.value = .ok 10 :=
    Amount.read_hexNumeral areDigits (List.cons_ne_nil _ _)
  exact ⟨proper, written, readable, isForwarded proper written readable⟩

end Draft

end Holdings
