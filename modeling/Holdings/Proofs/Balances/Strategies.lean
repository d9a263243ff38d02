import Holdings.Proofs.Balances.Native
import Holdings.Proofs.Balances.Report

/-!
# The strategies of the backends

What each kind of backend and its rendering do with the balances of a wallet is
an instance of one strategy.  Their balances are those of its report.
-/

namespace Holdings

open Fetch

namespace Backend

/-! ## The three kinds of backends -/

/-- An indexer lists tokens by contract and tells about each of them. -/
def indexerStrategy
    (rendering : Rendering)
    (client : Evm.Alchemy)
    (address : Json) :
    Strategy where
  Listing := Json
  Entry := ListedToken
  Answer := Json
  Item := IndexedToken
  native := client.balance address
  tokens := client.tokenBalances address
  nfts := client.nftsOf address
  entries listing := do
    listedTokens (← listingEntries listing)
  lookup token := client.tokenMetadata token.contract
  assemble := indexedToken
  token := rendering.indexedToken
  nft := Rendering.indexedNft

/-- A node of an EVM chain lists tokens with all that is told about them. -/
def nodeStrategy
    (rendering : Rendering)
    (transport : Transport)
    (node : EvmNode)
    (address : Json) :
    Strategy where
  Listing := List Json
  Entry := Json
  Answer := Unit
  Item := Json
  native := node.nativeBalance transport address
  tokens := node.tokens transport address
  nfts := node.nfts transport address
  entries listing := .ok (listing.getD [])
  lookup _ := pure ()
  assemble entry _ := entry
  token := rendering.nodeToken
  nft := Rendering.nodeNft

/-- A node of Solana lists accounts and tells about the mint of each. -/
def solanaStrategy
    (rendering : Rendering)
    (transport : Transport)
    (node : SolanaNode)
    (cache : MintCache)
    (address : Json) :
    Strategy where
  Listing := List SolanaNode.AccountEntry
  Entry := SolanaNode.AccountEntry
  Answer := MintLookup
  Item := TokenAccount
  native := node.nativeBalance transport address
  tokens := node.tokenAccounts transport address
  nfts := node.nfts transport address
  entries listing := .ok (listing.getD [])
  lookup entry := node.lookupMint transport cache entry.mint
  assemble := SolanaNode.tokenAccount
  token := rendering.accountToken
  nft := Rendering.solanaNft

/-- The strategy of a backend. -/
def strategy
    (backend : Backend)
    (transport : Transport)
    (rendering : Rendering)
    (address : Json) :
    Strategy :=
  match backend with
  | .indexer client => indexerStrategy rendering client address
  | .evmNode node => nodeStrategy rendering transport node address
  | .solanaNode node cache => solanaStrategy rendering transport node cache address

/-- Every backend asks for each part with calls of its own. -/
theorem isParted_strategy
    (backend : Backend)
    (transport : Transport)
    (rendering : Rendering)
    (address : Json) :
    (backend.strategy transport rendering address).IsParted := by
  cases backend with
  | indexer client =>
      constructor
      · exact (client.within_balance address).widen fun _ asked => asked.asksFor rfl
      · exact (client.within_tokenBalances address).widen fun _ asked => asked.asksFor rfl
      · exact (client.within_nftsOf address).widen fun _ asked => asked.asksFor
      · intro token
        exact (client.within_tokenMetadata token.contract).widen fun _ asked => asked.asksFor rfl
  | evmNode node =>
      constructor
      · exact (node.within_nativeBalance transport address).widen fun _ asked => asked.asksFor rfl
      · exact (node.within_tokens transport address).widen fun _ asked => asked.asksFor rfl
      · exact (node.within_nfts transport address).widen fun _ asked => asked.asksFor rfl
      · intro entry
        exact Within.pure _
  | solanaNode node cache =>
      constructor
      · exact (node.within_nativeBalance transport address).widen fun _ asked => asked.asksFor rfl
      · exact (node.within_tokenAccounts transport address).widen fun _ asked => asked.asksFor rfl
      · exact (node.within_nfts transport address).widen fun _ asked => asked.asksFor rfl
      · intro entry
        exact (node.within_lookupMint transport cache entry.mint).widen
          fun _ asked => asked.asksFor rfl

/-- Without a listing there are no tokens. -/
theorem listed_none
    (backend : Backend)
    (transport : Transport)
    (rendering : Rendering)
    (address : Json)
    (chain : ChainId)
    (tier : Tier)
    (network : Network)
    (log : Log) :
    (((backend.strategy transport rendering address).listed chain tier none).run network log).1 =
      .ok [] := by
  cases backend <;> rfl

end Backend

/-! ## Balances of reports -/

namespace Rendering

/-- The balances whose parts are rendered one after the other are those of a report. -/
theorem toOption_parts
    (native : String)
    (tokens : Except Fault (List TokenBalance))
    (nfts : Except Fault (List NftBalance)) :
    (do
      let tokens ← tokens
      let nfts ← nfts
      return { native, tokens, nfts } : Except Fault Balances).toOption =
      (Report.mk native tokens nfts).balances? := by
  cases tokens with
  | error fault =>
      rfl
  | ok tokens =>
      cases nfts with
      | error fault =>
          rfl
      | ok nfts =>
          rfl

end Rendering

namespace Backend

theorem fetchEach_pure
    {α β : Type}
    (chain : ChainId)
    (tier : Tier)
    (value : β)
    (items : List α) :
    fetchEach chain tier (fun _ => pure value) items =
      pure (items.map fun _ => some value) := by
  have attempted : attemptEach (fun _ : α => (pure value : Fetch β)) items =
      pure (items.map fun _ => .ok value) := by
    induction items with
    | nil =>
        rfl
    | cons item rest induction =>
        rw [attemptEach, induction]
        rfl
  have settled (outcomes : List α) :
      settleEach (partEvent chain tier metadataPart)
          (outcomes.map fun _ => (.ok value : Except Fault β)) =
        pure (outcomes.map fun _ => some value) := by
    induction outcomes with
    | nil =>
        rfl
    | cons outcome rest induction =>
        rw [List.map_cons, settleEach, induction]
        rfl
  rw [fetchEach, attempted]
  exact settled items

/-! ## Balances by strategy -/

theorem balances_indexer
    (client : Evm.Alchemy)
    (transport : Transport)
    (rendering : Rendering)
    (chain : ChainId)
    (address : Json)
    (tier : Tier) :
    Backend.balances (.indexer client) transport chain address tier =
      (indexerStrategy rendering client address).ask
        (fun slots items answers =>
          (Payload.indexed (Json.ofText? slots.native) items (slots.nfts.getD [])
            (withMetadataPart slots.failed answers), .indexer client)) chain tier := by
  simp only [Backend.balances, indexerBalances, Strategy.ask, indexerStrategy, liftM_bind,
    bind_assoc, pure_bind]

/-- A node looks nothing up, and the tokens that it lists are rendered as they are. -/
theorem balances_evmNode
    (node : EvmNode)
    (transport : Transport)
    (rendering : Rendering)
    (chain : ChainId)
    (address : Json)
    (tier : Tier) :
    Backend.balances (.evmNode node) transport chain address tier =
      (nodeStrategy rendering transport node address).ask
        (fun slots items _ =>
          (Payload.node (Json.ofText? slots.native) items (slots.nfts.getD []) slots.failed,
            .evmNode node)) chain tier := by
  simp only [Backend.balances, EvmNode.balances, Strategy.ask, nodeStrategy, bind_assoc,
    pure_bind, fetchEach_pure]
  apply bind_congr
  intro slots
  rw [liftM_ok_bind, List.zipWith_map_right, List.zipWith_self, List.map_id']

theorem balances_solanaNode
    (node : SolanaNode)
    (cache : MintCache)
    (transport : Transport)
    (rendering : Rendering)
    (chain : ChainId)
    (address : Json)
    (tier : Tier) :
    Backend.balances (.solanaNode node cache) transport chain address tier =
      (solanaStrategy rendering transport node cache address).ask
        (fun slots items answers =>
          (Payload.solana (Json.ofText? slots.native) items (slots.nfts.getD [])
            (withMetadataPart slots.failed answers),
            .solanaNode node (SolanaNode.storeAll cache answers))) chain tier := by
  simp only [Backend.balances, SolanaNode.balances, Strategy.ask, solanaStrategy, bind_assoc,
    pure_bind]
  rfl

variable {rendering : Rendering} {config : ChainConfig}

/-- A backend that fits a rendering comes to the balances of its report. -/
theorem toOption_balances
    {backend : Backend}
    (family : backend.family = rendering.family)
    (nativeRendered : ∀ native,
      rendering.amount (Json.ofText? native) config.nativeDecimals =
        .ok (rendering.nativeText config native))
    (transport : Transport)
    (chain : ChainId)
    (address : Json)
    (tier : Tier)
    (network : Network)
    (log : Log) :
    (((backend.balances transport chain address tier).run network log).1 >>=
        fun answered => rendering.balances answered.1 config).toOption =
      ((backend.strategy transport rendering address).report (rendering.nativeText config)
        chain tier network log).balances? := by
  have parted := backend.isParted_strategy transport rendering address
  cases backend with
  | indexer client =>
      rw [balances_indexer client transport rendering]
      apply Strategy.toOption_ask parted
      intro slots items answers
      simp only [Rendering.balances, ← family, Backend.family, nativeRendered]
      exact Rendering.toOption_parts _ _ _
  | evmNode node =>
      rw [balances_evmNode node transport rendering]
      apply Strategy.toOption_ask parted
      intro slots items answers
      simp only [Rendering.balances, ← family, Backend.family, nativeRendered]
      exact Rendering.toOption_parts _ _ _
  | solanaNode node cache =>
      rw [balances_solanaNode node cache transport rendering]
      apply Strategy.toOption_ask parted
      intro slots items answers
      simp only [Rendering.balances, ← family, Backend.family, nativeRendered]
      exact Rendering.toOption_parts _ _ _

end Backend

end Holdings
