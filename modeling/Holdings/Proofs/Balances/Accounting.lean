import Holdings.Proofs.Balances.Strategies
import Holdings.Proofs.Balances.Tokens

/-!
# How failures are accounted for

Three records are kept of what failed while the balances of a wallet were asked for:
the names in the payload, the values that are missing in it, and the warnings in the log.
All of them are made from the outcomes of one run, the parts first and then the look-ups
in the order of the tokens, so that they always tell the same.
-/

namespace Holdings

open Fetch

/-! ## What is told about a fault -/

/-- A fault that is worded by a message of its own has this for its text. -/
theorem Fault.text_told
    {fault : Fault}
    {text : String}
    (own : fault.message = some text)
    (foreign : Wording) :
    (fault.told foreign).text = text := by
  unfold told
  split
  · cases own
  · cases own
    rfl
  · cases own
  · cases own
  · rw [own]

/-- The fault of an outcome, if it failed. -/
def Outcome.fault?
    {α : Type} :
    Except Fault α → Option Fault
  | .ok _ => none
  | .error fault => some fault

/-! ## Failures of a run -/

/-- The parts of the balances, in the order in which they are asked for. -/
def Part.all : List Part := [.native, .tokens, .nfts]

/-- The name of a part in payloads and in events. -/
def Part.name : Part → String
  | .native => "native"
  | .tokens => "tokens"
  | .nfts => "nfts"

/-- What failed in a run: the faults of the parts, and those of look-ups in order. -/
structure Failures where
  part : Part → Option Fault
  lookups : List Fault

namespace Failures

/-- The failures among the outcomes of the parts and of the look-ups. -/
def ofOutcomes
    {α β γ δ : Type}
    (native : Except Fault α)
    (tokens : Except Fault β)
    (nfts : Except Fault γ)
    (lookups : List (Except Fault δ)) :
    Failures where
  part
    | .native => Outcome.fault? native
    | .tokens => Outcome.fault? tokens
    | .nfts => Outcome.fault? nfts
  lookups := lookups.filterMap Outcome.fault?

/-- The names that failures have in a payload: failed parts in order, then the look-ups. -/
def names
    (failures : Failures) :
    List String :=
  (Part.all.filter fun part => (failures.part part).isSome).map Part.name ++
    if failures.lookups.isEmpty then [] else [Backend.metadataPart]

/-- All failures in the order in which they are recorded, each with the part it belongs to. -/
def inOrder
    (failures : Failures) :
    List (String × Fault) :=
  (Part.all.filterMap fun part => (failures.part part).map fun fault => (part.name, fault)) ++
    failures.lookups.map fun fault => (Backend.metadataPart, fault)

variable {α β γ δ : Type}

/-- The names of the parts that are missing, and of look-ups if one is, are those of failures. -/
theorem names_ofOutcomes
    (native : Except Fault α)
    (tokens : Except Fault β)
    (nfts : Except Fault γ)
    (lookups : List (Except Fault δ)) :
    Backend.withMetadataPart
        (Backend.Slots.mk native.toOption tokens.toOption nfts.toOption).failed
        (lookups.map Except.toOption) =
      (ofOutcomes native tokens nfts lookups).names := by
  have anyMissing :
      (lookups.map Except.toOption).any Option.isNone =
        !(lookups.filterMap Outcome.fault?).isEmpty := by
    induction lookups with
    | nil =>
        rfl
    | cons outcome rest induction =>
        cases outcome with
        | ok value =>
            exact induction
        | error fault =>
            rfl
  have parts :
      (Backend.Slots.mk native.toOption tokens.toOption nfts.toOption).failed =
        (Part.all.filter fun part =>
          ((ofOutcomes native tokens nfts lookups).part part).isSome).map Part.name := by
    cases native <;> cases tokens <;> cases nfts <;> rfl
  have faults :
      (ofOutcomes native tokens nfts lookups).lookups = lookups.filterMap Outcome.fault? :=
    rfl
  rw [Backend.withMetadataPart, anyMissing, parts, names, faults]
  cases (lookups.filterMap Outcome.fault?).isEmpty with
  | true =>
      exact (List.append_nil _).symm
  | false =>
      rfl

/-- The warnings that are recorded are those about all failures, in order. -/
theorem map_partEvent_inOrder
    (chain : ChainId)
    (tier : Tier)
    (native : Except Fault α)
    (tokens : Except Fault β)
    (nfts : Except Fault γ)
    (lookups : List (Except Fault δ)) :
    ((ofOutcomes native tokens nfts lookups).inOrder.map fun failure =>
        Backend.partEvent chain tier failure.1 failure.2) =
      Backend.partWarnings chain tier "native" native ++
        Backend.partWarnings chain tier "tokens" tokens ++
        Backend.partWarnings chain tier "nfts" nfts ++
        lookups.flatMap (Backend.partWarnings chain tier Backend.metadataPart) := by
  have each :
      lookups.flatMap (Backend.partWarnings chain tier Backend.metadataPart) =
        (lookups.filterMap Outcome.fault?).map
          (Backend.partEvent chain tier Backend.metadataPart) := by
    induction lookups with
    | nil =>
        rfl
    | cons outcome rest induction =>
        rw [List.flatMap_cons, induction]
        cases outcome <;> rfl
  rw [each, inOrder, List.map_append, List.map_map]
  cases native <;> cases tokens <;> cases nfts <;> rfl

end Failures

/--
A warning reports a failure: it names the chain, the tier and the part, and says what the error
behind the fault says, or the name of its type when that is nothing.  Where this error comes from
elsewhere, in whole or in part, this is so in whichever way it words itself.
-/
structure Event.Reports
    (chain : ChainId)
    (tier : Tier)
    (failure : String × Fault)
    (event : Event) :
    Prop where
  severity : event.severity = .warning
  chain : event.chain = chain
  tier : event.tier = .text tier.name
  operation : event.operation = "get_balances." ++ failure.1
  cause : event.cause = failure.2
  text : ∀ foreign, (failure.2.told foreign).text ≠ "" →
    event.message foreign = (failure.2.told foreign).text
  typeName : ∀ foreign, (failure.2.told foreign).text = "" →
    event.message foreign = (failure.2.told foreign).typeName

theorem reports_partEvent
    (chain : ChainId)
    (tier : Tier)
    (failure : String × Fault) :
    (Backend.partEvent chain tier failure.1 failure.2).Reports chain tier failure := by
  refine ⟨rfl, rfl, rfl, rfl, rfl, ?_, ?_⟩
  · intro foreign spoken
    exact if_neg spoken
  · intro foreign silent
    exact if_pos silent

/-! ## Look-ups -/

namespace Fetch

/-- What records nothing leaves the events as they are. -/
theorem Within.events_eq
    {α : Type}
    {calls : Call → Prop}
    {fetch : Fetch α}
    (quiet : fetch.Within calls fun _ => False)
    (network : Network)
    (log : Log) :
    (fetch.run network log).2.events = log.events := by
  rcases quiet.exists_added network log with ⟨newCalls, newEvents, grown, -, none⟩
  have empty : newEvents = [] := List.eq_nil_iff_forall_not_mem.2 none
  rw [grown, empty, List.append_nil]

end Fetch

namespace Backend

variable {α β : Type}

/-- The outcomes of look-ups, each of which goes on from the log of the one before. -/
def lookupOutcomes
    (lookup : α → Fetch β)
    (network : Network) :
    Log → List α → List (Except Fault β)
  | _, [] => []
  | log, item :: rest =>
    ((lookup item).run network log).1 ::
      lookupOutcomes lookup network ((lookup item).run network log).2 rest

theorem run_attemptEach
    (lookup : α → Fetch β)
    (network : Network)
    (log : Log)
    (items : List α) :
    ((attemptEach lookup items).run network log).1 =
      .ok (lookupOutcomes lookup network log items) := by
  induction items generalizing log with
  | nil =>
      rfl
  | cons item rest induction =>
      have others := induction ((lookup item).run network log).2
      rw [attemptEach, run_bind, run_attempt]
      dsimp only
      rw [run_bind]
      generalize (attemptEach lookup rest).run network ((lookup item).run network log).2 = ended
        at others ⊢
      rcases ended with ⟨outcome, later⟩
      cases others
      rfl

theorem length_lookupOutcomes
    (lookup : α → Fetch β)
    (network : Network)
    (log : Log)
    (items : List α) :
    (lookupOutcomes lookup network log items).length = items.length := by
  induction items generalizing log with
  | nil =>
      rfl
  | cons item rest induction =>
      exact congrArg (· + 1) (induction _)

/-- Look-ups that record nothing themselves come to one warning for each that failed. -/
theorem run_fetchEach
    {calls : Call → Prop}
    {lookup : α → Fetch β}
    (quiet : ∀ item, (lookup item).Within calls fun _ => False)
    (chain : ChainId)
    (tier : Tier)
    (network : Network)
    (log : Log)
    (items : List α) :
    ∃ later,
      (fetchEach chain tier lookup items).run network log =
          (.ok ((lookupOutcomes lookup network log items).map Except.toOption), later) ∧
        later.events = log.events ++
          (lookupOutcomes lookup network log items).flatMap
            (partWarnings chain tier metadataPart) := by
  have attempted := run_attemptEach lookup network log items
  have kept := (within_attemptEach quiet items).events_eq network log
  rw [fetchEach, run_bind]
  generalize (attemptEach lookup items).run network log = ended at attempted kept ⊢
  rcases ended with ⟨outcome, between⟩
  cases attempted
  dsimp only
  rw [run_settleEach]
  exact ⟨_, rfl, congrArg (· ++ _) kept⟩

end Backend

/-! ## Strategies -/

namespace Strategy

/-- The log when all three parts have ended and the warnings about them are recorded. -/
def partsLog
    (strategy : Strategy)
    (chain : ChainId)
    (tier : Tier)
    (network : Network)
    (log : Log) :
    Log :=
  ((Backend.fetchSlots chain tier strategy.native strategy.tokens strategy.nfts).run network log).2

/-- The outcomes of the look-ups, which are made when the parts have ended. -/
def lookupOutcomes
    (strategy : Strategy)
    (chain : ChainId)
    (tier : Tier)
    (network : Network)
    (log : Log) :
    List (Except Fault strategy.Answer) :=
  match strategy.entries (strategy.tokensRun network log).1.toOption with
  | .error _ => []
  | .ok entries =>
    Backend.lookupOutcomes strategy.lookup network (strategy.partsLog chain tier network log)
      entries

/-- What failed in a run. -/
def failures
    (strategy : Strategy)
    (chain : ChainId)
    (tier : Tier)
    (network : Network)
    (log : Log) :
    Failures :=
  .ofOutcomes (strategy.nativeRun network log).1 (strategy.tokensRun network log).1
    (strategy.nftsRun network log).1 (strategy.lookupOutcomes chain tier network log)

/-- The parts of a run as far as they could be fetched. -/
def slots
    (strategy : Strategy)
    (network : Network)
    (log : Log) :
    Backend.Slots String strategy.Listing (List Json) :=
  ⟨(strategy.nativeRun network log).1.toOption, (strategy.tokensRun network log).1.toOption,
    (strategy.nftsRun network log).1.toOption⟩

variable {strategy : Strategy} {chain : ChainId} {tier : Tier} {network : Network} {log : Log}

/-- The log of the parts has a warning for each part that failed, in order. -/
theorem events_partsLog
    (parted : strategy.IsParted) :
    (strategy.partsLog chain tier network log).events =
      log.events ++ Backend.partWarnings chain tier "native" (strategy.nativeRun network log).1 ++
        Backend.partWarnings chain tier "tokens" (strategy.tokensRun network log).1 ++
        Backend.partWarnings chain tier "nfts" (strategy.nftsRun network log).1 := by
  have afterNative := parted.native.events_eq network log
  have afterTokens := parted.tokens.events_eq network (strategy.nativeRun network log).2
  have afterNfts := parted.nfts.events_eq network (strategy.tokensRun network log).2
  rw [partsLog, Backend.run_fetchSlots]
  dsimp only [nativeRun, tokensRun, nftsRun] at afterNative afterTokens afterNfts ⊢
  rw [afterNfts, afterTokens, afterNative]

/-- What a strategy asks for is built from its outcomes, and a warning is left for each failure. -/
theorem exists_of_ask
    {α : Type}
    (parted : strategy.IsParted)
    {build : Backend.Slots String strategy.Listing (List Json) →
      List strategy.Item → List (Option strategy.Answer) → α}
    {result : α}
    {grown : Log}
    (ended : (strategy.ask build chain tier).run network log = (.ok result, grown)) :
    ∃ entries,
      strategy.entries (strategy.tokensRun network log).1.toOption = .ok entries ∧
        (strategy.lookupOutcomes chain tier network log).length = entries.length ∧
        result = build (strategy.slots network log)
          (entries.zipWith strategy.assemble
            ((strategy.lookupOutcomes chain tier network log).map Except.toOption))
          ((strategy.lookupOutcomes chain tier network log).map Except.toOption) ∧
        grown.events = log.events ++
          (strategy.failures chain tier network log).inOrder.map fun failure =>
            Backend.partEvent chain tier failure.1 failure.2 := by
  have parts :
      (Backend.fetchSlots chain tier strategy.native strategy.tokens strategy.nfts).run
          network log =
        (.ok (strategy.slots network log), strategy.partsLog chain tier network log) := by
    rw [partsLog, Backend.run_fetchSlots]
    rfl
  rw [ask, run_bind, parts] at ended
  dsimp only at ended
  have listing : (strategy.slots network log).tokens =
      (strategy.tokensRun network log).1.toOption :=
    rfl
  rw [listing] at ended
  cases listed : strategy.entries (strategy.tokensRun network log).1.toOption with
  | error fault =>
      rw [listed] at ended
      cases ended
  | ok entries =>
      have outcomes : strategy.lookupOutcomes chain tier network log =
          Backend.lookupOutcomes strategy.lookup network
            (strategy.partsLog chain tier network log) entries := by
        rw [lookupOutcomes, listed]
      rcases Backend.run_fetchEach parted.lookup chain tier network
        (strategy.partsLog chain tier network log) entries with ⟨later, fetched, lookedUp⟩
      rw [← outcomes] at fetched lookedUp
      rw [listed, liftM_ok_bind, run_bind, fetched] at ended
      cases ended
      refine ⟨entries, rfl, ?_, rfl, ?_⟩
      · rw [outcomes, Backend.length_lookupOutcomes]
      · rw [lookedUp, events_partsLog parted, failures, Failures.map_partEvent_inOrder]
        simp only [List.append_assoc]

end Strategy

/-! ## Payloads -/

/-- The non-fungible tokens of a payload, as they were listed. -/
def Payload.nfts : Payload → List Json
  | .indexed _ _ nfts _ => nfts
  | .node _ _ nfts _ => nfts
  | .solana _ _ nfts _ => nfts

/-- A payload names what failed, and has nothing in the place of a part that did. -/
structure Payload.AccountsFor
    (payload : Payload)
    (failures : Failures) :
    Prop where
  failed : payload.failed = failures.names
  native : (failures.part .native).isSome → payload.native = .null
  tokens : (failures.part .tokens).isSome → payload.tokens = []
  nfts : (failures.part .nfts).isSome → payload.nfts = []

theorem Outcome.toOption_eq_none
    {α : Type}
    {outcome : Except Fault α}
    (failed : (Outcome.fault? outcome).isSome) :
    outcome.toOption = none := by
  cases outcome with
  | ok value =>
      cases failed
  | error fault =>
      rfl

namespace Strategy

/--
The payload and the log of a run account for it.  A payload has one token for each entry that
was listed, and the look-ups, whose failures are reported last, were made in their order.
-/
structure Accounts
    (strategy : Strategy)
    (subject : strategy.Entry → Json)
    (chain : ChainId)
    (tier : Tier)
    (network : Network)
    (log : Log)
    (payload : Payload)
    (grown : Log) :
    Prop where
  told : payload.AccountsFor (strategy.failures chain tier network log)
  tokens :
    ∃ entries,
      strategy.entries (strategy.tokensRun network log).1.toOption = .ok entries ∧
        (strategy.lookupOutcomes chain tier network log).length = entries.length ∧
        payload.tokens.map RawToken.mint = entries.map subject
  warnings :
    ∃ warnings,
      grown.events = log.events ++ warnings ∧
        List.Forall₂ (Event.Reports chain tier)
          (strategy.failures chain tier network log).inOrder warnings

variable {strategy : Strategy} {chain : ChainId} {tier : Tier} {network : Network} {log : Log}

/-- A payload with the parts of a run, and as many tokens as were listed, accounts for the run. -/
theorem accountsFor_failures
    {payload : Payload}
    {entries : List strategy.Entry}
    (noEntries : strategy.entries none = .ok [])
    (listed : strategy.entries (strategy.tokensRun network log).1.toOption = .ok entries)
    (failed : payload.failed =
      Backend.withMetadataPart (strategy.slots network log).failed
        ((strategy.lookupOutcomes chain tier network log).map Except.toOption))
    (native : payload.native = Json.ofText? (strategy.slots network log).native)
    (tokens : payload.tokens.length = entries.length)
    (nfts : payload.nfts = (strategy.slots network log).nfts.getD []) :
    payload.AccountsFor (strategy.failures chain tier network log) := by
  constructor
  · rw [failed]
    exact Failures.names_ofOutcomes _ _ _ _
  · intro nativeFailed
    rw [native, slots, Outcome.toOption_eq_none nativeFailed]
    rfl
  · intro tokensFailed
    rw [Outcome.toOption_eq_none tokensFailed, noEntries] at listed
    cases listed
    exact List.length_eq_zero_iff.1 tokens
  · intro nftsFailed
    rw [nfts, slots, Outcome.toOption_eq_none nftsFailed]
    rfl

/-- What is told of each item by its left part is told of the list of left parts. -/
theorem map_zipWith_left
    {α β γ δ : Type}
    {pair : α → β → γ}
    {tell : γ → δ}
    {own : α → δ}
    (each : ∀ item value, tell (pair item value) = own item)
    {items : List α}
    {values : List β}
    (sameLength : values.length = items.length) :
    (items.zipWith pair values).map tell = items.map own := by
  rw [List.map_zipWith]
  simp only [each]
  induction items generalizing values with
  | nil =>
      rfl
  | cons item rest induction =>
      cases values with
      | nil =>
          cases sameLength
      | cons value others =>
          exact congrArg (List.cons _) (induction (Nat.succ.inj sameLength))

/-- A strategy that builds its payload out of all that it was answered accounts for its runs. -/
theorem accounts_of_ask
    {β : Type}
    (parted : strategy.IsParted)
    (noEntries : strategy.entries none = .ok [])
    {subject : strategy.Entry → Json}
    {mint : strategy.Item → Json}
    (assembled : ∀ entry answer, mint (strategy.assemble entry answer) = subject entry)
    {build : Backend.Slots String strategy.Listing (List Json) →
      List strategy.Item → List (Option strategy.Answer) → Payload × β}
    (native : ∀ slots items answers,
      (build slots items answers).1.native = Json.ofText? slots.native)
    (tokens : ∀ slots items answers,
      (build slots items answers).1.tokens.map RawToken.mint = items.map mint)
    (nfts : ∀ slots items answers,
      (build slots items answers).1.nfts = slots.nfts.getD [])
    (failed : ∀ slots items,
      (build slots items
          ((strategy.lookupOutcomes chain tier network log).map Except.toOption)).1.failed =
        Backend.withMetadataPart slots.failed
          ((strategy.lookupOutcomes chain tier network log).map Except.toOption))
    {payload : Payload}
    {kept : β}
    {grown : Log}
    (ended : (strategy.ask build chain tier).run network log = (.ok (payload, kept), grown)) :
    strategy.Accounts subject chain tier network log payload grown := by
  rcases exists_of_ask parted ended with ⟨entries, listed, sameLength, built, recorded⟩
  have payloadBuilt := congrArg Prod.fst built
  dsimp only at payloadBuilt
  have mints : payload.tokens.map RawToken.mint = entries.map subject := by
    rw [payloadBuilt, tokens]
    exact map_zipWith_left (fun entry answer => assembled entry answer)
      ((List.length_map _).trans sameLength)
  have asMany : payload.tokens.length = entries.length := by
    rw [← List.length_map RawToken.mint, mints, List.length_map]
  constructor
  · apply accountsFor_failures noEntries listed
    · rw [payloadBuilt, failed]
    · rw [payloadBuilt, native]
    · exact asMany
    · rw [payloadBuilt, nfts]
  · exact ⟨entries, listed, sameLength, mints⟩
  · refine ⟨_, recorded, ?_⟩
    rw [List.forall₂_map_right_iff, List.forall₂_same]
    intro failure _
    exact reports_partEvent chain tier failure

end Strategy

/-! ## Backends -/

namespace Backend

/-- What a look-up of a strategy is about: the contract or the mint of the token. -/
def subject
    (backend : Backend)
    (transport : Transport)
    (rendering : Rendering)
    (address : Json) :
    (backend.strategy transport rendering address).Entry → Json :=
  match backend with
  | .indexer _ => fun token : ListedToken => token.contract
  | .evmNode _ => fun entry : Json => entry.getD "contractAddress"
  | .solanaNode _ _ => fun entry : SolanaNode.AccountEntry => entry.mint

/-- Where nothing is looked up, nothing fails. -/
theorem lookupOutcomes_pure
    {α β : Type}
    (value : β)
    (network : Network)
    (log : Log)
    (items : List α) :
    lookupOutcomes (fun _ => pure value) network log items = items.map fun _ => .ok value := by
  induction items with
  | nil =>
      rfl
  | cons item rest induction =>
      exact congrArg (List.cons _) induction

/-- A node with listings looks nothing up, so that no look-up is named. -/
theorem withMetadataPart_nodeStrategy
    (rendering : Rendering)
    (transport : Transport)
    (node : EvmNode)
    (address : Json)
    (chain : ChainId)
    (tier : Tier)
    (network : Network)
    (log : Log)
    (failed : List String) :
    withMetadataPart failed
        (((nodeStrategy rendering transport node address).lookupOutcomes chain tier network
          log).map Except.toOption) =
      failed := by
  have none (entries : List Json) :
      ((lookupOutcomes (fun _ : Json => (pure () : Fetch Unit)) network
          ((nodeStrategy rendering transport node address).partsLog chain tier network log)
          entries).map Except.toOption).any Option.isNone = false := by
    rw [lookupOutcomes_pure]
    simp [Except.toOption]
  unfold Strategy.lookupOutcomes
  rw [withMetadataPart, if_neg]
  rw [Bool.not_eq_true]
  exact none _

/--
Whenever a backend comes to a payload, the names in it are those of the parts that failed, in
order, and then of the look-ups if one failed; a failed part is empty in it; and the log
has a warning for each failed part and then for each failed look-up, in the order of the
tokens, and for nothing else.
-/
theorem balances_accounted
    {backend kept : Backend}
    {transport : Transport}
    {chain : ChainId}
    {address : Json}
    {tier : Tier}
    {network : Network}
    {log grown : Log}
    {payload : Payload}
    (rendering : Rendering)
    (ended : (backend.balances transport chain address tier).run network log =
      (.ok (payload, kept), grown)) :
    (backend.strategy transport rendering address).Accounts
      (backend.subject transport rendering address) chain tier network log payload grown := by
  have parted := backend.isParted_strategy transport rendering address
  cases backend with
  | indexer client =>
      rw [balances_indexer client transport rendering] at ended
      apply Strategy.accounts_of_ask parted rfl _ _ _ _ _ ended
      · exact fun token : IndexedToken => token.contract
      · intro token metadata
        rfl
      · intro slots items answers
        rfl
      · intro slots items answers
        exact List.map_map
      · intro slots items answers
        rfl
      · intro slots items
        rfl
  | evmNode node =>
      rw [balances_evmNode node transport rendering] at ended
      apply Strategy.accounts_of_ask parted rfl _ _ _ _ _ ended
      · exact fun entry : Json => entry.getD "contractAddress"
      · intro entry answer
        rfl
      · intro slots items answers
        rfl
      · intro slots items answers
        exact List.map_map
      · intro slots items answers
        rfl
      · intro slots items
        exact (withMetadataPart_nodeStrategy rendering transport node address chain tier network
          log slots.failed).symm
  | solanaNode node cache =>
      rw [balances_solanaNode node cache transport rendering] at ended
      apply Strategy.accounts_of_ask parted rfl _ _ _ _ _ ended
      · exact TokenAccount.mint
      · intro entry lookup
        rfl
      · intro slots items answers
        rfl
      · intro slots items answers
        exact List.map_map
      · intro slots items answers
        rfl
      · intro slots items
        rfl

/-! ## A wallet with two kinds of failures -/

/-- An indexer whose wallet lists two tokens and owns no others; one token is not told about. -/
def sampleNetwork : Network := fun earlier call =>
  match call, earlier.length with
  | .page _ _, _ => .value (.object [("ownedNfts", .array [])])
  | .rpc _ _ _ _, 0 =>
    .value (.object [("result", .object [("tokenBalances", .array
      [.object [("contractAddress", .text "0x2")],
        .object [("contractAddress", .text "0x3")]])])])
  | .rpc _ _ _ _, 2 => .value (.object [("result", .object [("decimals", .int 6)])])
  | .rpc _ _ _ _, _ => .silent

/-- What is asked for, under an address that no node would be asked about. -/
def sampleRun : Except Fault (Payload × Backend) × Log :=
  (Backend.balances (.indexer ⟨"eth-mainnet", "key"⟩) .standard .ethereum (.text "0x1")
    .mainnet).run sampleNetwork .empty

/-- The native part has failed, and so has one of two look-ups. -/
def samplePayload : Payload :=
  .indexed .null
    [⟨.text "0x2", .null, .object [("decimals", .int 6)]⟩, ⟨.text "0x3", .null, .null⟩] []
    ["native", "token_metadata"]

theorem balances_accounted_sample :
    sampleRun = (.ok (samplePayload, .indexer ⟨"eth-mainnet", "key"⟩), sampleRun.2) ∧
      (Backend.strategy (.indexer ⟨"eth-mainnet", "key"⟩) .standard ⟨.evm, true⟩
          (.text "0x1")).Accounts
        (subject (.indexer ⟨"eth-mainnet", "key"⟩) .standard ⟨.evm, true⟩ (.text "0x1"))
        .ethereum .mainnet sampleNetwork .empty samplePayload sampleRun.2 ∧
      sampleRun.2.events.map (fun event => (event.operation, event.message .unknown)) =
        [("get_balances.native", "Unknown format '0x1', attempted to normalize to '0x1'"),
          ("get_balances.token_metadata", "TimeoutError")] := by
  have ended : sampleRun =
      (.ok (samplePayload, .indexer ⟨"eth-mainnet", "key"⟩), sampleRun.2) :=
    rfl
  refine ⟨ended, balances_accounted ⟨.evm, true⟩ ended, ?_⟩
  decide +kernel

end Backend

end Holdings
