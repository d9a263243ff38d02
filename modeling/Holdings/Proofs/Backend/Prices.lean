import Holdings.Balances.Rendering
import Holdings.Proofs.Amount.Refused
import Holdings.Proofs.Backend.Questions
import Holdings.Proofs.Network.Replies

/-!
# Prices with and without a priority fee

What a network is told to cost comes from its price of gas and, where there is one, from its
priority fee.  A node adds the two up; an indexer adds the priority fee to twice the base fee of
the latest block, and falls back on the price where a block has no base fee.

The priority fee is meant to be optional: where none is told, the price alone is what counts.  A
node that does not answer in time, or answers with an error, is passed over in that way.  But what
a node tells that is no amount ends the question, and what an indexer tells is taken for a
priority fee before it is looked at.
-/

namespace Holdings

open Fetch Outcome Text

/-! ## What a network tells about its fees -/

/-- What a network tells about its fees. -/
inductive ToldFees where
  /-- By a node: a price, and a priority fee or what stands in its way. -/
  | node (price : Nat) (tip : Except Fault Nat)
  /-- By an indexer: a price without a priority fee. -/
  | priced (price : Nat)
  /-- By an indexer: a price, what it gives for a priority fee, and for the base fee of a block. -/
  | latest (price : Nat) (tip : Evm.NodeAnswer) (base : Json)

namespace ToldFees

/-- The fee that a value is, if it is one. -/
def feeOf? : Json → Option Nat
  | .int (.ofNat fee) => some fee
  | _ => none

/-- The price that what is told is meant to come to. -/
def promised : ToldFees → Nat
  | .node price (.ok tip) => price + tip
  | .node price (.error _) => price
  | .priced price => price
  | .latest price tip base =>
    match feeOf? tip.value, feeOf? base with
    | some tip, some base => 2 * base + tip
    | _, _ => price

/-- What is told comes to the price that is meant. -/
inductive IsSettled : ToldFees → Prop where
  | sum
      {price tip : Nat}
      (printable : price + tip < 10 ^ numeralLimit) :
      IsSettled (.node price (.ok tip))
  | tipless
      {price : Nat}
      {fault : Fault}
      (passedOver : fault.kind = .transport)
      (printable : price < 10 ^ numeralLimit) :
      IsSettled (.node price (.error fault))
  | priced
      {price : Nat}
      (printable : price < 10 ^ numeralLimit) :
      IsSettled (.priced price)
  | baseless
      {price : Nat}
      {tip : Evm.NodeAnswer}
      (printable : price < 10 ^ numeralLimit)
      (showable : tip.value.isShowable = true) :
      IsSettled (.latest price tip .null)
  | based
      {price fee baseFee : Nat}
      {tip : Evm.NodeAnswer}
      {base : Json}
      (isTip : feeOf? tip.value = some fee)
      (isBase : feeOf? base = some baseFee)
      (pricePrintable : price < 10 ^ numeralLimit)
      (printable : 2 * baseFee + fee < 10 ^ numeralLimit) :
      IsSettled (.latest price tip base)
  /-- Something else than two fees is added up to the price by chance. -/
  | coincident
      {price : Nat}
      {fee baseFee : Int}
      {tip : Evm.NodeAnswer}
      {base : Json}
      (untold : feeOf? tip.value = none ∨ feeOf? base = none)
      (tipTaken : Evm.Fee.ofJson? tip.value = some (.whole fee))
      (baseTaken : Evm.Fee.ofJson? base = some (.whole baseFee))
      (same : 2 * baseFee + fee = price)
      (printable : price < 10 ^ numeralLimit)
      (showable : tip.value.isShowable = true) :
      IsSettled (.latest price tip base)

/-- The fees that are made of what is told. -/
def raw : ToldFees → Except Fault RawFee
  | .node price (.ok tip) => do
    let priceText ← Amount.print price
    let highest ← Amount.print (price + tip)
    let tipText ← Amount.print tip
    return ⟨.text priceText, .text highest, .text tipText⟩
  | .node price (.error fault) =>
    if fault.kind = .transport then do
      return ⟨.text (← Amount.print price), .null, .null⟩
    else
      .error fault
  | .priced price => do
    return ⟨.text (← (Evm.NodeAnswer.result (.int price)).print), .null, .null⟩
  | .latest price tip base => do
    let highest ← Evm.highestFee base tip.value
    let priceText ← (Evm.NodeAnswer.result (.int price)).print
    let tipText ← tip.print
    return ⟨.text priceText, highest, .text tipText⟩

end ToldFees

/-- What a backend is told about fees, the price being there and, at an indexer, the block. -/
inductive Backend.TellsFees
    (transport : Transport)
    (network : Network)
    (log : Log) :
    Backend → ToldFees → Prop where
  | node
      {node : EvmNode}
      {price : Nat}
      {later : Log}
      (priced : (node.quantity transport "eth_gasPrice").run network log = (.ok price, later)) :
      TellsFees transport network log (.evmNode node)
        (.node price ((node.quantity transport "eth_maxPriorityFeePerGas").run network later).1)
  | refused
      {client : Evm.Alchemy}
      {price : Nat}
      {later grown : Log}
      {fault : Fault}
      (priced :
        (client.nodeQuantity "eth_gasPrice" []).run network log =
          (.ok (.result (.int price)), later))
      (tipped : client.priorityFee.run network later = (.error fault, grown)) :
      TellsFees transport network log (.indexer client) (.priced price)
  | answered
      {client : Evm.Alchemy}
      {price : Nat}
      {tip : Evm.NodeAnswer}
      {base : Json}
      {later after grown : Log}
      (priced :
        (client.nodeQuantity "eth_gasPrice" []).run network log =
          (.ok (.result (.int price)), later))
      (tipped : client.priorityFee.run network later = (.ok tip, after))
      (based : client.baseFee.run network after = (.ok base, grown)) :
      TellsFees transport network log (.indexer client) (.latest price tip base)

namespace Backend

theorem EvmNode.feesAt_eq
    (node : EvmNode)
    (transport : Transport)
    (price : Nat) :
    node.feesAt transport price =
      (node.quantity transport "eth_maxPriorityFeePerGas").attempt >>= fun tip =>
        liftM (ToldFees.node price tip).raw := by
  refine bind_congr fun tip => ?_
  cases tip with
  | ok tip =>
      simp only [ToldFees.raw, Fetch.liftM_bind]
      rfl
  | error fault =>
      dsimp only [ToldFees.raw]
      split
      · rw [Fetch.liftM_bind]
        rfl
      · rfl

/-- Fees are made of what is told, and of nothing else. -/
theorem run_fees_of_tellsFees
    {transport : Transport}
    {network : Network}
    {log : Log}
    {backend : Backend}
    {told : ToldFees}
    (tells : backend.TellsFees transport network log told) :
    ∃ grown, (backend.fees transport).run network log = (told.raw, grown) := by
  cases tells with
  | node priced =>
      rw [fees, EvmNode.fees_eq, run_bind_of_ok priced, EvmNode.feesAt_eq,
        run_bind_of_ok (run_attempt _ _ _)]
      exact ⟨_, run_liftM _ _ _⟩
  | @refused client price later grown fault priced tipped =>
      rw [fees, Evm.Alchemy.fees_eq, run_bind_of_ok priced, Evm.Alchemy.feesAt,
        run_bind_of_ok (run_attempt _ _ _), tipped]
      refine ⟨grown, ?_⟩
      rw [← run_liftM (ToldFees.priced price).raw network grown]
      simp only [ToldFees.raw, Fetch.liftM_bind]
      rfl
  | @answered client price tip base later after grown priced tipped based =>
      rw [fees, Evm.Alchemy.fees_eq, run_bind_of_ok priced, Evm.Alchemy.feesAt,
        run_bind_of_ok (run_attempt _ _ _), tipped]
      dsimp only
      rw [run_bind_of_ok based]
      refine ⟨grown, ?_⟩
      rw [← run_liftM (ToldFees.latest price tip base).raw network grown]
      simp only [ToldFees.raw, Fetch.liftM_bind]
      rfl

end Backend

/-! ## Texts of prices -/

theorem Evm.NodeAnswer.exists_print_iff
    {answer : NodeAnswer} :
    (∃ written, answer.print = .ok written) ↔ answer.value.isShowable = true := by
  cases answer with
  | result value =>
      rw [print, Json.printIn, NodeAnswer.value]
      by_cases showable : value.isShowable = true
      · simp [showable]
      · simp [showable]
  | notice subscription content =>
      rw [print]
      by_cases showable : (NodeAnswer.notice subscription content).value.isShowable = true
      · simp [showable]
      · simp [showable]

theorem Evm.NodeAnswer.print_price_eq_ok_iff
    {price : Nat}
    {written : String} :
    (Evm.NodeAnswer.result (.int price)).print = .ok written ↔
      price < 10 ^ numeralLimit ∧ written = decimalText price := by
  by_cases printable : price < 10 ^ numeralLimit
  · rw [print, Amount.printIn_int printable]
    simp [printable, eq_comm]
  · have sameLimit : numeralLimit = Json.digitLimit := rfl
    have notShowable : ¬ (Json.int price).isShowable = true := by
      rwa [Json.isShowable_int_iff, Int.natAbs_natCast, ← sameLimit]
    rw [print, Json.printIn, if_neg notShowable]
    simp [printable]

namespace Rendering

/-- The highest fee goes before the price. -/
theorem gasPrice_of_text
    {written : String}
    (notEmpty : written ≠ "")
    (price tip : Json) :
    gasPrice ⟨price, .text written, tip⟩ = Amount.read (.text written) >>= Amount.print := by
  have answered : isAnswered (.text written) = true := decide_eq_true notEmpty
  rw [gasPrice, if_pos answered]

theorem gasPrice_highest
    {highest : Nat}
    (printable : highest < 10 ^ numeralLimit)
    (price tip : Json) :
    gasPrice ⟨price, .text (decimalText highest), tip⟩ = .ok (decimalText highest) := by
  rw [gasPrice_of_text (Amount.decimalText_ne_empty highest), Amount.read_print printable]

theorem gasPrice_plain
    {price : Nat}
    (printable : price < 10 ^ numeralLimit)
    (tip : Json) :
    gasPrice ⟨.text (decimalText price), .null, tip⟩ = .ok (decimalText price) := by
  have answered : isAnswered (.text (decimalText price)) = true :=
    decide_eq_true (Amount.decimalText_ne_empty price)
  rw [gasPrice, if_neg nofun, if_pos answered, Amount.read_print printable]

end Rendering

/-! ## Sums with a base fee -/

namespace Evm

section Highest

variable {base tip highest : Json}

/-- Whole fees are added up, the base fee being taken twice. -/
theorem highestFee_of_whole
    {baseFee fee : Int}
    (baseTaken : Fee.ofJson? base = some (.whole baseFee))
    (tipTaken : Fee.ofJson? tip = some (.whole fee)) :
    highestFee base tip = (Json.int (2 * baseFee + fee)).print.map .text := by
  have same : baseFee + baseFee + fee = 2 * baseFee + fee := by
    omega
  unfold highestFee
  split
  · cases baseTaken
  · cases baseTaken
  · rw [Fee.ofJson, baseTaken, Fee.ofJson, tipTaken]
    dsimp only
    rw [ok_bind, ok_bind, Fee.add_whole, ok_bind, Fee.add_whole, ok_bind, Fee.toJson, same]
    generalize (Json.int (2 * baseFee + fee)).print = printed
    cases printed <;> rfl

/-- A text that is there and is no amount. -/
def IsNoAmount
    (written : String) :
    Prop :=
  written ≠ "" ∧ Amount.read (.text written) = .error (.invalidAmount (.text written))

/-- A sum is whole only if both parts are. -/
theorem exists_real_of_add
    {left right sum : Fee}
    (notWhole : ∀ first second, ¬ (left = .whole first ∧ right = .whole second))
    (added : left.add right = .ok sum) :
    ∃ value, sum = .real value := by
  unfold Fee.add at added
  split at added
  · next first second => exact absurd ⟨rfl, rfl⟩ (notWhole first second)
  · rcases bind_eq_ok.1 added with ⟨first, -, later⟩
    rcases bind_eq_ok.1 later with ⟨second, -, same⟩
    cases same
    exact ⟨_, rfl⟩

theorem isNoAmount_of_print_real
    {value : Double}
    {written : String}
    (printed : (Fee.real value).toJson.print = .ok written) :
    IsNoAmount written := by
  cases printed
  exact ⟨value.toText_ne_empty, value.read_toText⟩

theorem ofJson?_of_ofJson
    {value : Json}
    {fee : Fee}
    (taken : Fee.ofJson value = .ok fee) :
    Fee.ofJson? value = some fee := by
  unfold Fee.ofJson at taken
  split at taken
  · next there =>
      cases taken
      exact there
  · cases taken

/-- What is made of anything else than whole fees is no amount. -/
theorem exists_of_highestFee
    (notNull : base ≠ .null)
    (ended : highestFee base tip = .ok highest) :
    (∃ baseFee fee,
        Fee.ofJson? base = some (.whole baseFee) ∧ Fee.ofJson? tip = some (.whole fee)) ∨
      ∃ written, highest = .text written ∧ IsNoAmount written := by
  unfold highestFee at ended
  split at ended
  · exact absurd rfl notNull
  · rcases bind_eq_ok.1 ended with ⟨written, printed, same⟩
    cases same
    rcases Json.exists_toList_print printed with ⟨inside, bracketed⟩
    refine .inr ⟨written, rfl, ?_, Amount.read_of_brackets bracketed⟩
    rintro rfl
    cases bracketed
  · rcases bind_eq_ok.1 ended with ⟨baseFee, baseTaken, later⟩
    rcases bind_eq_ok.1 later with ⟨fee, tipTaken, later⟩
    rcases bind_eq_ok.1 later with ⟨doubled, baseAdded, later⟩
    rcases bind_eq_ok.1 later with ⟨sum, added, later⟩
    rcases bind_eq_ok.1 later with ⟨written, printed, same⟩
    cases same
    cases baseFee with
    | whole baseFee =>
        cases fee with
        | whole fee =>
            exact .inl ⟨baseFee, fee, ofJson?_of_ofJson baseTaken, ofJson?_of_ofJson tipTaken⟩
        | real fee =>
            rcases exists_real_of_add (by rintro _ _ ⟨-, ⟨⟩⟩) added with ⟨value, rfl⟩
            exact .inr ⟨written, rfl, isNoAmount_of_print_real printed⟩
    | real baseFee =>
        rcases exists_real_of_add (by rintro _ _ ⟨⟨⟩, -⟩) baseAdded with ⟨twice, rfl⟩
        rcases exists_real_of_add (by rintro _ _ ⟨⟨⟩, -⟩) added with ⟨value, rfl⟩
        exact .inr ⟨written, rfl, isNoAmount_of_print_real printed⟩

end Highest

end Evm

/-! ## The price that is meant -/

namespace ToldFees

/-- The price that is made of what is told. -/
def outcome
    (told : ToldFees) :
    Except Fault String :=
  told.raw >>= Rendering.gasPrice

section Outcomes

variable {price : Nat}

theorem outcome_node_ok_iff
    {tip : Nat} :
    (node price (.ok tip)).outcome = .ok (decimalText (price + tip)) ↔
      price + tip < 10 ^ numeralLimit := by
  constructor
  · intro ended
    rcases bind_eq_ok.1 ended with ⟨fee, made, -⟩
    rcases bind_eq_ok.1 made with ⟨priceText, -, later⟩
    rcases bind_eq_ok.1 later with ⟨highest, printed, -⟩
    exact (Amount.print_eq_ok_iff.1 printed).1
  · intro printable
    have pricePrintable := Nat.lt_of_le_of_lt (Nat.le_add_right price tip) printable
    have tipPrintable := Nat.lt_of_le_of_lt (Nat.le_add_left tip price) printable
    rw [outcome, raw, Amount.print_of_lt pricePrintable, Amount.print_of_lt printable,
      Amount.print_of_lt tipPrintable]
    exact Rendering.gasPrice_highest printable _ _

theorem outcome_node_error_iff
    {fault : Fault} :
    (node price (.error fault)).outcome = .ok (decimalText price) ↔
      fault.kind = .transport ∧ price < 10 ^ numeralLimit := by
  rw [outcome, raw]
  constructor
  · intro ended
    rcases bind_eq_ok.1 ended with ⟨fee, made, -⟩
    split at made
    · next passedOver =>
        rcases bind_eq_ok.1 made with ⟨priceText, printed, -⟩
        exact ⟨passedOver, (Amount.print_eq_ok_iff.1 printed).1⟩
    · cases made
  · rintro ⟨passedOver, printable⟩
    rw [if_pos passedOver, Amount.print_of_lt printable]
    exact Rendering.gasPrice_plain printable _

theorem outcome_priced_iff :
    (priced price).outcome = .ok (decimalText price) ↔ price < 10 ^ numeralLimit := by
  rw [outcome, raw]
  constructor
  · intro ended
    rcases bind_eq_ok.1 ended with ⟨fee, made, -⟩
    rcases bind_eq_ok.1 made with ⟨priceText, printed, -⟩
    exact (Evm.NodeAnswer.print_price_eq_ok_iff.1 printed).1
  · intro printable
    rw [Evm.NodeAnswer.print_price_eq_ok_iff.2 ⟨printable, rfl⟩]
    exact Rendering.gasPrice_plain printable _

theorem outcome_baseless_iff
    {tip : Evm.NodeAnswer} :
    (latest price tip .null).outcome = .ok (decimalText price) ↔
      price < 10 ^ numeralLimit ∧ tip.value.isShowable = true := by
  have highest : Evm.highestFee .null tip.value = .ok .null := rfl
  rw [outcome, raw, highest, ok_bind]
  constructor
  · intro ended
    rcases bind_eq_ok.1 ended with ⟨fee, made, -⟩
    rcases bind_eq_ok.1 made with ⟨priceText, printed, later⟩
    rcases bind_eq_ok.1 later with ⟨tipText, tipPrinted, -⟩
    exact ⟨(Evm.NodeAnswer.print_price_eq_ok_iff.1 printed).1,
      Evm.NodeAnswer.exists_print_iff.1 ⟨tipText, tipPrinted⟩⟩
  · rintro ⟨printable, showable⟩
    rcases Evm.NodeAnswer.exists_print_iff.2 showable with ⟨tipText, tipPrinted⟩
    rw [Evm.NodeAnswer.print_price_eq_ok_iff.2 ⟨printable, rfl⟩, tipPrinted]
    exact Rendering.gasPrice_plain printable _

/-- What is told comes to a total exactly where that is the sum of whole fees. -/
theorem outcome_latest_iff
    {total : Nat}
    {tip : Evm.NodeAnswer}
    {base : Json}
    (notNull : base ≠ .null) :
    (latest price tip base).outcome = .ok (decimalText total) ↔
      ∃ baseFee fee : Int,
        Evm.Fee.ofJson? base = some (.whole baseFee) ∧
          Evm.Fee.ofJson? tip.value = some (.whole fee) ∧
            2 * baseFee + fee = total ∧
              total < 10 ^ numeralLimit ∧
                price < 10 ^ numeralLimit ∧ tip.value.isShowable = true := by
  rw [outcome, raw]
  constructor
  · intro ended
    rcases bind_eq_ok.1 ended with ⟨fees, made, told⟩
    rcases bind_eq_ok.1 made with ⟨highest, reckoned, later⟩
    rcases bind_eq_ok.1 later with ⟨priceText, printed, last⟩
    rcases bind_eq_ok.1 last with ⟨tipText, tipPrinted, same⟩
    cases same
    -- The sum is looked at only as a text, and from its text an amount can be read back.
    rcases Evm.exists_of_highestFee notNull reckoned with
      ⟨baseFee, fee, baseTaken, tipTaken⟩ | ⟨written, rfl, notEmpty, unreadable⟩
    · rw [Evm.highestFee_of_whole baseTaken tipTaken] at reckoned
      rcases map_eq_ok.1 reckoned with ⟨written, sumPrinted, rfl⟩
      rw [Rendering.gasPrice_of_text (Amount.ne_empty_of_print sumPrinted)] at told
      rcases bind_eq_ok.1 told with ⟨amount, readable, amountPrinted⟩
      rcases Amount.print_eq_ok_iff.1 amountPrinted with ⟨printable, sameText⟩
      cases Amount.decimalText_injective sameText
      exact ⟨baseFee, fee, baseTaken, tipTaken, Amount.eq_of_read_print sumPrinted readable,
        printable, (Evm.NodeAnswer.print_price_eq_ok_iff.1 printed).1,
        Evm.NodeAnswer.exists_print_iff.1 ⟨tipText, tipPrinted⟩⟩
    · rw [Rendering.gasPrice_of_text notEmpty, unreadable] at told
      cases told
  · rintro ⟨baseFee, fee, baseTaken, tipTaken, sum, printable, pricePrintable, showable⟩
    rcases Evm.NodeAnswer.exists_print_iff.2 showable with ⟨tipText, tipPrinted⟩
    rw [Evm.highestFee_of_whole baseTaken tipTaken, sum, Amount.print_int printable,
      Evm.NodeAnswer.print_price_eq_ok_iff.2 ⟨pricePrintable, rfl⟩, tipPrinted]
    exact Rendering.gasPrice_highest printable _ _

end Outcomes

section Promised

variable {price : Nat} {tip : Evm.NodeAnswer} {base : Json}

theorem promised_untold
    (untold : feeOf? tip.value = none ∨ feeOf? base = none) :
    promised (.latest price tip base) = price := by
  rw [promised]
  split
  · next isTip isBase =>
      exact absurd untold (by simp [isTip, isBase])
  · rfl

theorem promised_told
    {fee baseFee : Nat}
    (isTip : feeOf? tip.value = some fee)
    (isBase : feeOf? base = some baseFee) :
    promised (.latest price tip base) = 2 * baseFee + fee := by
  simp only [promised, isTip, isBase]

theorem eq_int_of_feeOf?
    {value : Json}
    {fee : Nat}
    (isFee : feeOf? value = some fee) :
    value = .int fee := by
  unfold feeOf? at isFee
  split at isFee
  · cases isFee
    rfl
  · cases isFee

end Promised

theorem outcome_eq_promised_latest_iff
    {price : Nat}
    {tip : Evm.NodeAnswer}
    {base : Json} :
    (latest price tip base).outcome = .ok (decimalText (latest price tip base).promised) ↔
      (latest price tip base).IsSettled := by
  by_cases isNull : base = .null
  · subst isNull
    rw [promised_untold (.inr rfl), outcome_baseless_iff]
    constructor
    · rintro ⟨printable, showable⟩
      exact .baseless printable showable
    · intro settled
      cases settled with
      | baseless printable showable =>
          exact ⟨printable, showable⟩
      | based isTip isBase =>
          cases isBase
      | coincident untold tipTaken baseTaken =>
          cases baseTaken
  · by_cases untold : feeOf? tip.value = none ∨ feeOf? base = none
    · rw [promised_untold untold, outcome_latest_iff isNull]
      constructor
      · rintro ⟨baseFee, fee, baseTaken, tipTaken, same, -, printable, showable⟩
        exact .coincident untold tipTaken baseTaken same printable showable
      · intro settled
        cases settled with
        | baseless =>
            exact absurd rfl isNull
        | based isTip isBase =>
            exact absurd untold (by simp [isTip, isBase])
        | coincident there tipTaken baseTaken same printable showable =>
            exact ⟨_, _, baseTaken, tipTaken, same, printable, printable, showable⟩
    · rcases not_or.1 untold with ⟨tipTold, baseTold⟩
      rcases Option.ne_none_iff_exists'.1 tipTold with ⟨fee, isTip⟩
      rcases Option.ne_none_iff_exists'.1 baseTold with ⟨baseFee, isBase⟩
      rw [promised_told isTip isBase, outcome_latest_iff isNull]
      constructor
      · rintro ⟨-, -, -, -, -, printable, pricePrintable, -⟩
        exact .based isTip isBase pricePrintable printable
      · intro settled
        cases settled with
        | baseless =>
            exact absurd rfl isNull
        | coincident there =>
            exact absurd there untold
        | based tipThere baseThere pricePrintable printable =>
            cases isTip.symm.trans tipThere
            cases isBase.symm.trans baseThere
            rw [eq_int_of_feeOf? isTip, eq_int_of_feeOf? isBase]
            exact ⟨baseFee, fee, rfl, rfl, by omega, printable, pricePrintable,
              Amount.isShowable_int (Nat.lt_of_le_of_lt (Nat.le_add_left _ _) printable)⟩

/-- What is told comes to the price that is meant exactly where it is settled. -/
theorem outcome_eq_promised_iff
    {told : ToldFees} :
    told.outcome = .ok (decimalText told.promised) ↔ told.IsSettled := by
  cases told with
  | node price tip =>
      cases tip with
      | ok tip =>
          rw [promised, outcome_node_ok_iff]
          constructor
          · exact .sum
          · rintro ⟨printable⟩
            exact printable
      | error fault =>
          rw [promised, outcome_node_error_iff]
          constructor
          · rintro ⟨passedOver, printable⟩
            exact .tipless passedOver printable
          · rintro (_ | ⟨passedOver, printable⟩)
            exact ⟨passedOver, printable⟩
  | priced price =>
      rw [promised, outcome_priced_iff]
      constructor
      · exact .priced
      · rintro (_ | _ | ⟨printable⟩)
        exact printable
  | latest price tip base =>
      exact outcome_eq_promised_latest_iff

end ToldFees

end Holdings
