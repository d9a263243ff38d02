import Holdings.Proofs.Backend.Parts
import Holdings.Proofs.Provider.Arises

/-!
# Balances part by part

Every call for the balances of a wallet belongs to one of their three parts.  A
report tells for each part what its own calls have come to, so that the parts can
be looked at apart from each other.  All backends follow one strategy: they ask
for the parts in turn, look up something about each token, and render the parts.
-/

namespace Holdings

open Fetch

/-! ## Parts and their calls -/

/-- A part of the balances of a wallet. -/
inductive Part where
  | native
  | tokens
  | nfts
deriving DecidableEq, Repr

/-- The methods that ask for the native balance. -/
def nativeMethods : List String := ["eth_getBalance", "getBalance"]

/-- The methods that list tokens and tell about them. -/
def tokenMethods : List String :=
  ["alchemy_getTokenBalances", "alchemy_getTokenMetadata", "qn_getWalletTokenBalance",
    "getTokenAccountsByOwner", "getAccountInfo"]

/-- The methods that list non-fungible tokens, where no pages do. -/
def nftMethods : List String := ["qn_fetchNFTs", "getProgramAccounts"]

/-- The part that a method asks for. -/
def Part.ofMethod?
    (method : String) :
    Option Part :=
  if method ∈ nativeMethods then some .native
  else if method ∈ tokenMethods then some .tokens
  else if method ∈ nftMethods then some .nfts
  else none

/-- The part that a call asks for. -/
def Call.part? : Call → Option Part
  | .rpc _ _ method _ => Part.ofMethod? method
  | .page _ _ => some .nfts

/-- Whether a call asks for a part. -/
abbrev Call.AsksFor
    (part : Part)
    (call : Call) :
    Prop :=
  call.part? = some part

theorem Call.IsRpc.asksFor
    {channel : Channel}
    {url method : String}
    {part : Part}
    {call : Call}
    (isRpc : call.IsRpc channel url method)
    (known : Part.ofMethod? method = some part) :
    call.AsksFor part := by
  cases call with
  | rpc usedChannel usedUrl usedMethod params =>
      rcases isRpc with ⟨-, -, rfl⟩
      exact known
  | page usedUrl query =>
      exact isRpc.elim

theorem Call.IsPage.asksFor
    {url : String}
    {call : Call}
    (isPage : call.IsPage url) :
    call.AsksFor .nfts := by
  cases call with
  | rpc usedChannel usedUrl usedMethod params =>
      exact isPage.elim
  | page usedUrl query =>
      rfl

/-! ## Reports -/

/-- What has become of each part of the balances of a wallet. -/
structure Report where
  native : String
  tokens : Except Fault (List TokenBalance)
  nfts : Except Fault (List NftBalance)

namespace Report

/-- The balances of a report in which no part is a fault. -/
def balances?
    (report : Report) :
    Option Balances :=
  match report.tokens, report.nfts with
  | .ok tokens, .ok nfts => some ⟨report.native, tokens, nfts⟩
  | _, _ => none

/-- The balances of a report; if some part is a fault, those of an empty wallet. -/
def response
    (report : Report) :
    Balances :=
  report.balances?.getD .zero

/-- The report of a question that ends before anything is asked. -/
def failed
    (fault : Fault) :
    Report :=
  ⟨"0", .error fault, .error fault⟩

/-- Two reports tell the same of a part. -/
def SameAt
    (part : Part)
    (left right : Report) :
    Prop :=
  match part with
  | .native => left.native = right.native
  | .tokens => left.tokens = right.tokens
  | .nfts => left.nfts = right.nfts

theorem SameAt.refl
    (part : Part)
    (report : Report) :
    SameAt part report report := by
  cases part <;> rfl

end Report

/-- Two wallets hold the same in a part. -/
def Balances.SameAt
    (part : Part)
    (left right : Balances) :
    Prop :=
  match part with
  | .native => left.native = right.native
  | .tokens => left.tokens = right.tokens
  | .nfts => left.nfts = right.nfts

/-- Reports with one and the same part come to balances with the same part, or to none. -/
theorem Report.SameAt.response
    {part : Part}
    {left right : Report}
    (same : Report.SameAt part left right)
    (sameEnd : left.balances?.isSome = right.balances?.isSome) :
    Balances.SameAt part left.response right.response := by
  rcases left with ⟨leftNative, leftTokens, leftNfts⟩
  rcases right with ⟨rightNative, rightTokens, rightNfts⟩
  cases part <;>
    cases leftTokens <;> cases leftNfts <;> cases rightTokens <;> cases rightNfts <;>
      simp_all [Report.SameAt, Balances.SameAt, Report.response, Report.balances?]

/-! ## Strategies -/

/-- How a kind of backend goes about the balances of a wallet. -/
structure Strategy where
  /-- What the tokens are listed in, what is looked up about, and what a look-up tells. -/
  Listing : Type
  Entry : Type
  Answer : Type
  /-- A token as it is rendered. -/
  Item : Type
  native : Fetch String
  tokens : Fetch Listing
  nfts : Fetch (List Json)
  entries : Option Listing → Except Fault (List Entry)
  lookup : Entry → Fetch Answer
  assemble : Entry → Option Answer → Item
  token : Item → Except Fault TokenBalance
  nft : Json → Except Fault NftBalance

namespace Strategy

/-- The tokens that a listing comes to, with what is looked up about them. -/
def listed
    (strategy : Strategy)
    (chain : ChainId)
    (tier : Tier)
    (listing : Option strategy.Listing) :
    Fetch (List TokenBalance) := do
  let entries ← strategy.entries listing
  let answers ← Backend.fetchEach chain tier strategy.lookup entries
  Fetch.ofExcept ((entries.zipWith strategy.assemble answers).mapM strategy.token)

/-- The run of the native part, which comes first. -/
def nativeRun
    (strategy : Strategy)
    (network : Network)
    (log : Log) :
    Except Fault String × Log :=
  strategy.native.run network log

/-- The run of the tokens, which goes on from the native part. -/
def tokensRun
    (strategy : Strategy)
    (network : Network)
    (log : Log) :
    Except Fault strategy.Listing × Log :=
  strategy.tokens.run network (strategy.nativeRun network log).2

/-- The run of the non-fungible tokens, which goes on from the tokens. -/
def nftsRun
    (strategy : Strategy)
    (network : Network)
    (log : Log) :
    Except Fault (List Json) × Log :=
  strategy.nfts.run network (strategy.tokensRun network log).2

/-- What each part has come to in a run. -/
def report
    (strategy : Strategy)
    (nativeText : Option String → String)
    (chain : ChainId)
    (tier : Tier)
    (network : Network)
    (log : Log) :
    Report where
  native := nativeText (strategy.nativeRun network log).1.toOption
  tokens := ((strategy.listed chain tier (strategy.tokensRun network log).1.toOption).run network
    (strategy.nftsRun network log).2).1
  nfts := ((strategy.nftsRun network log).1.toOption.getD []).mapM strategy.nft

/-- Asks for all parts and makes something out of them. -/
def ask
    {α : Type}
    (strategy : Strategy)
    (build : Backend.Slots String strategy.Listing (List Json) →
      List strategy.Item → List (Option strategy.Answer) → α)
    (chain : ChainId)
    (tier : Tier) :
    Fetch α := do
  let slots ← Backend.fetchSlots chain tier strategy.native strategy.tokens strategy.nfts
  let entries ← strategy.entries slots.tokens
  let answers ← Backend.fetchEach chain tier strategy.lookup entries
  return build slots (entries.zipWith strategy.assemble answers) answers

/-- Each part is asked for with its own calls, and nothing is recorded meanwhile. -/
structure IsParted
    (strategy : Strategy) :
    Prop where
  native : strategy.native.Within (Call.AsksFor .native) fun _ => False
  tokens : strategy.tokens.Within (Call.AsksFor .tokens) fun _ => False
  nfts : strategy.nfts.Within (Call.AsksFor .nfts) fun _ => False
  lookup : ∀ entry, (strategy.lookup entry).Within (Call.AsksFor .tokens) fun _ => False

variable {strategy : Strategy}

theorem within_listed
    (parted : strategy.IsParted)
    (chain : ChainId)
    (tier : Tier)
    (listing : Option strategy.Listing) :
    (strategy.listed chain tier listing).Within (Call.AsksFor .tokens)
      (Backend.IsPartWarning chain tier) := by
  apply Within.bind (Within.lift _)
  intro entries
  apply Within.bind
  · apply Backend.within_fetchEach
    intro entry
    exact (parted.lookup entry).mono (fun _ asked => asked) fun _ => False.elim
  · intro answers
    exact Within.ofExcept _

/-- What asks for one part leaves the calls for another as they are. -/
theorem chosen_run_of_ne
    {α : Type}
    {events : Event → Prop}
    {fetch : Fetch α}
    {part other : Part}
    (within : fetch.Within (Call.AsksFor other) events)
    (different : other ≠ part)
    (network : Network)
    (log : Log) :
    (fetch.run network log).2.chosen (Call.AsksFor part) =
      log.chosen (Call.AsksFor part) := by
  apply within.chosen_run
  intro call asked askedToo
  exact different (Option.some.inj (asked.symm.trans askedToo))

/--
Networks that agree on the calls for a part make no difference to what a report tells of the
part, whatever they reply to other calls.
-/
theorem report_sameAt
    (parted : strategy.IsParted)
    (nativeText : Option String → String)
    (chain : ChainId)
    (tier : Tier)
    {part : Part}
    {left right : Network}
    (networks : AgreeOn (Call.AsksFor part) left right)
    {first second : Log}
    (logs : first.chosen (Call.AsksFor part) = second.chosen (Call.AsksFor part)) :
    Report.SameAt part
      (strategy.report nativeText chain tier left first)
      (strategy.report nativeText chain tier right second) := by
  cases part with
  | native =>
      have outcomes := (parted.native.agree networks logs).1
      exact congrArg (fun outcome => nativeText outcome.toOption) outcomes
  | tokens =>
      have nativeApart := chosen_run_of_ne parted.native (show Part.native ≠ .tokens by decide)
      have nftsApart := chosen_run_of_ne parted.nfts (show Part.nfts ≠ .tokens by decide)
      have beforeTokens :
          (strategy.nativeRun left first).2.chosen (Call.AsksFor .tokens) =
            (strategy.nativeRun right second).2.chosen (Call.AsksFor .tokens) := by
        rw [nativeRun, nativeRun, nativeApart, nativeApart, logs]
      rcases parted.tokens.agree networks beforeTokens with ⟨listings, afterTokens⟩
      have afterNfts :
          (strategy.nftsRun left first).2.chosen (Call.AsksFor .tokens) =
            (strategy.nftsRun right second).2.chosen (Call.AsksFor .tokens) := by
        rw [nftsRun, nftsRun, nftsApart, nftsApart]
        exact afterTokens
      simp only [Report.SameAt, report, tokensRun]
      rw [listings]
      exact ((within_listed parted chain tier _).agree networks afterNfts).1
  | nfts =>
      have nativeApart := chosen_run_of_ne parted.native (show Part.native ≠ .nfts by decide)
      have tokensApart := chosen_run_of_ne parted.tokens (show Part.tokens ≠ .nfts by decide)
      have beforeNfts :
          (strategy.tokensRun left first).2.chosen (Call.AsksFor .nfts) =
            (strategy.tokensRun right second).2.chosen (Call.AsksFor .nfts) := by
        rw [tokensRun, tokensRun, tokensApart, tokensApart, nativeRun, nativeRun, nativeApart,
          nativeApart, logs]
      rcases parted.nfts.agree networks beforeNfts with ⟨outcomes, -⟩
      simp only [Report.SameAt, report, nftsRun]
      rw [outcomes]

/-- If renderings follow the parts, what is asked for comes to the balances of the report. -/
theorem toOption_ask
    {α : Type}
    (parted : strategy.IsParted)
    {build : Backend.Slots String strategy.Listing (List Json) →
      List strategy.Item → List (Option strategy.Answer) → α}
    {render : α → Except Fault Balances}
    {nativeText : Option String → String}
    (rendered : ∀ slots items answers,
      (render (build slots items answers)).toOption =
        (Report.mk (nativeText slots.native) (items.mapM strategy.token)
          ((slots.nfts.getD []).mapM strategy.nft)).balances?)
    (chain : ChainId)
    (tier : Tier)
    (network : Network)
    (log : Log) :
    (((strategy.ask build chain tier).run network log).1 >>= render).toOption =
      (strategy.report nativeText chain tier network log).balances? := by
  rw [ask, run_bind, Backend.run_fetchSlots]
  simp only [report, nftsRun, tokensRun, nativeRun]
  generalize strategy.native.run network log = nativeRun
  generalize strategy.tokens.run network nativeRun.2 = tokensRun
  generalize strategy.nfts.run network tokensRun.2 = nftsRun
  generalize grown : Log.mk nftsRun.2.calls _ = later
  -- The warnings that were recorded meanwhile make no difference to the look-ups.
  have sameCalls : nftsRun.2.calls = later.calls := by
    rw [← grown]
  rw [(within_listed parted chain tier _).outcome_eq_of_calls_eq network sameCalls]
  unfold listed
  cases listing : strategy.entries tokensRun.1.toOption with
  | error fault =>
      rfl
  | ok entries =>
      rcases Backend.exists_run_fetchEach chain tier strategy.lookup entries network later with
        ⟨answers, last, answered, -⟩
      have outcome := rendered ⟨nativeRun.1.toOption, tokensRun.1.toOption, nftsRun.1.toOption⟩
        (entries.zipWith strategy.assemble answers) answers
      rw [liftM_ok_bind, liftM_ok_bind, run_bind, run_bind, answered]
      exact outcome

end Strategy

end Holdings
