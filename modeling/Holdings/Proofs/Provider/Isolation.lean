import Holdings.Proofs.Balances.Strategies
import Holdings.Proofs.Provider.Balances

/-!
# How far the parts of the balances are isolated

What a provider tells about each part of the balances of a wallet depends on the
calls for this part alone.  The parts come together only at the end: when the
listed tokens or non-fungible tokens turn out to be malformed after they were
fetched, the wallet as a whole is reported as empty.
-/

namespace Holdings.Provider

open Fetch

/-- The strategy with which a provider asks for balances, if it comes as far as asking. -/
def strategy
    (provider : Provider)
    (address tier : Json) :
    Except Fault (Strategy × Tier) :=
  match Tier.read tier with
  | .error fault => .error fault
  | .ok named =>
    match provider.backendOf named with
    | .error fault => .error fault
    | .ok (backend, _) =>
      .ok (backend.strategy provider.transport provider.rendering address, named)

/-- What each part of the balances of a wallet has come to in a run. -/
def report
    (provider : Provider)
    (address tier : Json)
    (network : Network)
    (log : Log) :
    Report :=
  match provider.strategy address tier with
  | .error fault => .failed fault
  | .ok (strategy, named) =>
    strategy.report (provider.rendering.nativeText provider.chain.config) provider.chain.id named
      network log

variable {provider : Provider}

theorem IsRouted.isModerate
    (routed : provider.IsRouted) :
    IsModerate provider.chain.config.nativeDecimals := by
  rcases routed.chain with ⟨chain, fromTable⟩
  rw [fromTable]
  exact Chain.isModerate_nativeDecimals chain

/-- What comes out of an attempt are the balances of the report. -/
theorem IsRouted.toOption_tryBalances
    (routed : provider.IsRouted)
    (address tier : Json)
    (network : Network)
    (log : Log) :
    ∃ outcome later grown,
      (provider.tryBalances address tier).run network log = (.ok (outcome, later), grown) ∧
        outcome.toOption = (provider.report address tier network log).balances? := by
  unfold tryBalances report Provider.strategy
  cases Tier.read tier with
  | error fault =>
      exact ⟨.error fault, provider, log, rfl, rfl⟩
  | ok named =>
      dsimp only
      unfold Provider.withBackend
      cases found : provider.backendOf named with
      | error fault =>
          exact ⟨.error fault, provider, log, rfl, rfl⟩
      | ok built =>
          rcases built with ⟨backend, later⟩
          have family : backend.family = provider.rendering.family := by
            rw [routed.rendering]
            exact routed.family_of_routes (routed.backendOf found).1
          have rendered := Backend.toOption_balances family
            (Rendering.amount_native routed.isModerate) provider.transport provider.chain.id
            address named network log
          cases ended : (backend.balances provider.transport provider.chain.id address named).run
            network log with
          | mk answered grown =>
              rw [ended] at rendered
              simp only [run_bind, run_attempt, ended]
              cases answered with
              | error fault =>
                  exact ⟨_, _, _, rfl, rendered⟩
              | ok value =>
                  exact ⟨_, _, _, rfl, rendered⟩

/-- The strategy of a provider is that of a backend. -/
theorem exists_backend_of_strategy
    {address tier : Json}
    {strategy : Strategy}
    {named : Tier}
    (found : provider.strategy address tier = .ok (strategy, named)) :
    ∃ backend : Backend,
      strategy = backend.strategy provider.transport provider.rendering address := by
  unfold Provider.strategy at found
  cases meant : Tier.read tier with
  | error fault =>
      rw [meant] at found
      cases found
  | ok network =>
      rw [meant] at found
      cases held : provider.backendOf network with
      | error fault =>
          simp only [held] at found
          cases found
      | ok built =>
          simp only [held] at found
          cases found
          exact ⟨built.1, rfl⟩

/-- A strategy of a provider asks for each part with calls of its own. -/
theorem isParted_of_strategy
    {address tier : Json}
    {strategy : Strategy}
    {named : Tier}
    (found : provider.strategy address tier = .ok (strategy, named)) :
    strategy.IsParted := by
  rcases exists_backend_of_strategy found with ⟨backend, rfl⟩
  exact backend.isParted_strategy _ _ _

theorem listed_none_of_strategy
    {address tier : Json}
    {strategy : Strategy}
    {named : Tier}
    (found : provider.strategy address tier = .ok (strategy, named))
    (network : Network)
    (log : Log) :
    ((strategy.listed provider.chain.id named none).run network log).1 = .ok [] := by
  rcases exists_backend_of_strategy found with ⟨backend, rfl⟩
  exact backend.listed_none _ _ _ _ _ _ _

/-- Networks that agree on the calls for a part make no difference to the report of it. -/
theorem report_sameAt
    (provider : Provider)
    (address tier : Json)
    {part : Part}
    {left right : Network}
    (networks : AgreeOn (Call.AsksFor part) left right)
    {first second : Log}
    (logs : first.chosen (Call.AsksFor part) = second.chosen (Call.AsksFor part)) :
    (provider.report address tier left first).SameAt part
      (provider.report address tier right second) := by
  unfold report
  cases found : provider.strategy address tier with
  | error fault =>
      exact Report.SameAt.refl part _
  | ok asked =>
      exact Strategy.report_sameAt (isParted_of_strategy found) _ _ _ networks logs

/--
How a report follows from what its parts were answered: a valid native amount is in it as this
amount, and a part that could not be fetched is empty in it.
-/
structure Follows
    (provider : Provider)
    (strategy : Strategy)
    (network : Network)
    (log : Log)
    (report : Report) :
    Prop where
  native : ∀ written amount,
    (strategy.nativeRun network log).1 = .ok written →
      Amount.read (.text written) = .ok amount →
        amount < 10 ^ Text.numeralLimit →
          provider.rendering.amount (.int amount) provider.chain.config.nativeDecimals =
            .ok report.native
  noNative : ∀ fault,
    (strategy.nativeRun network log).1 = .error fault → report.native = "0"
  noTokens : ∀ fault,
    (strategy.tokensRun network log).1 = .error fault → report.tokens = .ok []
  noNfts : ∀ fault,
    (strategy.nftsRun network log).1 = .error fault → report.nfts = .ok []

theorem IsRouted.follows
    (routed : provider.IsRouted)
    {address tier : Json}
    {strategy : Strategy}
    {named : Tier}
    (found : provider.strategy address tier = .ok (strategy, named))
    (network : Network)
    (log : Log) :
    provider.Follows strategy network log (provider.report address tier network log) := by
  unfold report
  rw [found]
  constructor
  · intro written amount answered readable printable
    simp only [Strategy.report, answered]
    exact Rendering.nativeText_of_read routed.isModerate readable printable
  · intro fault failed
    simp only [Strategy.report, failed]
    exact Rendering.nativeText_none routed.isModerate
  · intro fault failed
    simp only [Strategy.report, failed]
    exact listed_none_of_strategy found network _
  · intro fault failed
    simp only [Strategy.report, failed]
    rfl

/--
Two networks that agree on the calls for one part of the balances lead to the same report of this
part, and to the same part of the balances unless exactly one of the two runs comes to a
malformed entry and reports an empty wallet.
-/
theorem balances_isolated
    (arises : provider.Arises)
    (address tier : Json)
    {part : Part}
    {left right : Network}
    (networks : AgreeOn (Call.AsksFor part) left right)
    {first second : Log}
    (logs : first.chosen (Call.AsksFor part) = second.chosen (Call.AsksFor part)) :
    ∃ leftReport rightReport leftLater rightLater leftGrown rightGrown,
      leftReport = provider.report address tier left first ∧
        rightReport = provider.report address tier right second ∧
        (provider.balances address tier).run left first =
          (.ok (leftReport.response, leftLater), leftGrown) ∧
        (provider.balances address tier).run right second =
          (.ok (rightReport.response, rightLater), rightGrown) ∧
        leftReport.SameAt part rightReport ∧
        (leftReport.balances?.isSome = rightReport.balances?.isSome →
          leftReport.response.SameAt part rightReport.response) ∧
        ∀ strategy named,
          provider.strategy address tier = .ok (strategy, named) →
            provider.Follows strategy left first leftReport := by
  have routed := arises.isRouted
  rcases routed.toOption_tryBalances address tier left first with
    ⟨leftOutcome, leftLater, leftGrown, leftRun, leftReported⟩
  rcases routed.toOption_tryBalances address tier right second with
    ⟨rightOutcome, rightLater, rightGrown, rightRun, rightReported⟩
  have leftAnswered := run_balances leftRun
  have rightAnswered := run_balances rightRun
  rw [leftReported] at leftAnswered
  rw [rightReported] at rightAnswered
  have same := provider.report_sameAt address tier networks logs
  refine ⟨_, _, _, _, _, _, rfl, rfl, leftAnswered, rightAnswered, same, same.response, ?_⟩
  intro strategy named found
  exact routed.follows found left first

/-! ## A malformed entry -/

/-- A provider over one node with listings. -/
def listingProvider : Provider :=
  .make 0 (.ofId .ethereum) ⟨[("QUICKNODE_ETH_URL", "https://node")]⟩ ⟨.evm, true⟩ .standard true
    (Registry.candidate (.ofId .ethereum) .quicknode) []

/-- A node with one unit of the native asset and a non-fungible token of some name. -/
def listingNetwork
    (name : Json) :
    Network := fun _ call =>
  match call with
  | .page _ _ => .silent
  | .rpc _ _ method _ =>
    .value (.object [("result",
      if method = "eth_getBalance" then .text "0x1"
      else if method = "qn_fetchNFTs" then
        .object [("assets",
          .array [.object [("collectionAddress", .text "0x2"), ("name", name)]])]
      else .null)])

theorem arises_listingProvider :
    listingProvider.Arises := by
  have built :
      (Registry.make ⟨[("QUICKNODE_ETH_URL", "https://node")]⟩ true .standard .standard).build
        .ethereum [.quicknode] = .ok listingProvider :=
    rfl
  exact .built built

theorem agreeOn_listingNetwork
    (left right : Json) :
    AgreeOn (Call.AsksFor .native) (listingNetwork left) (listingNetwork right) := by
  intro earlier others call asked _
  cases call with
  | page url query =>
      rfl
  | rpc channel url method params =>
      have notListed : method ≠ "qn_fetchNFTs" := by
        rintro rfl
        have another : Part.ofMethod? "qn_fetchNFTs" ≠ some .native := by
          decide
        exact another asked
      simp only [listingNetwork, if_neg notListed]

/-- Two networks that agree on the native balance, with a wallet that holds one unit in both. -/
theorem balances_isolated_listing :
    ∃ leftReport rightReport leftLater rightLater leftGrown rightGrown,
      leftReport = listingProvider.report (.text "0x1") (.text "mainnet")
          (listingNetwork (.text "A")) .empty ∧
        rightReport = listingProvider.report (.text "0x1") (.text "mainnet")
          (listingNetwork (.int 5)) .empty ∧
        (listingProvider.balances (.text "0x1") (.text "mainnet")).run
            (listingNetwork (.text "A")) .empty =
          (.ok (leftReport.response, leftLater), leftGrown) ∧
        (listingProvider.balances (.text "0x1") (.text "mainnet")).run
            (listingNetwork (.int 5)) .empty =
          (.ok (rightReport.response, rightLater), rightGrown) ∧
        leftReport.SameAt .native rightReport ∧
        (leftReport.balances?.isSome = rightReport.balances?.isSome →
          leftReport.response.SameAt .native rightReport.response) ∧
        ∀ strategy named,
          listingProvider.strategy (.text "0x1") (.text "mainnet") = .ok (strategy, named) →
            listingProvider.Follows strategy (listingNetwork (.text "A")) .empty leftReport :=
  balances_isolated arises_listingProvider _ _ (agreeOn_listingNetwork _ _) rfl

/-- A name that is no text turns the native balance into zero, though it is answered alike. -/
theorem native_not_isolated :
    AgreeOn (Call.AsksFor .native) (listingNetwork (.text "A")) (listingNetwork (.int 5)) ∧
      ((((listingProvider.balances (.text "0x1") (.text "mainnet")).run
          (listingNetwork (.text "A")) .empty).1.toOption.map fun answered =>
            answered.1.native) = some "0.000000000000000001") ∧
      ((((listingProvider.balances (.text "0x1") (.text "mainnet")).run
          (listingNetwork (.int 5)) .empty).1.toOption.map fun answered =>
            answered.1.native) = some "0") := by
  refine ⟨agreeOn_listingNetwork _ _, ?_, ?_⟩
  · decide +kernel
  · decide +kernel

end Holdings.Provider
