import Holdings.Balances.Rendering
import Holdings.Chain.Table
import Holdings.Proofs.Json.Path
import Holdings.Proofs.Outcome

/-!
# Two shapes of one wallet

An indexer and a node list what a wallet of an EVM chain holds in different shapes: in the
one, things are told in objects of their own, in the other one all of them in one object.
What is to be reported of a token or of a non-fungible token is the same in both, item by
item, whatever is missing, null, empty or of the wrong type, so that both shapes of a
wallet are rendered alike.
-/

namespace Holdings

open Outcome

/-! ## What is held -/

/-- A token that a wallet holds; null stands for what is not told of it. -/
structure Holding where
  contract : String
  amount : Json
  decimals : Json
  symbol : Json
  name : Json

/-- A non-fungible token of a wallet; null stands for what is not told of it. -/
structure Collectible where
  contract : String
  tokenId : Json
  name : Json
  collection : Json
  image : Json

/-- An object tells a value under a name; without an object, nothing is told. -/
def Json.Tells
    (record : Json)
    (name : String)
    (value : Json) :
    Prop :=
  record.lookup name = .ok value ∨ (record = .null ∧ value = .null)

theorem Json.Tells.lookup_orEmpty
    {record : Json}
    {name : String}
    {value : Json}
    (tells : record.Tells name value) :
    record.orEmpty.lookup name = .ok value := by
  rcases tells with told | ⟨rfl, rfl⟩
  · cases record with
    | object members =>
        cases members with
        | nil =>
            exact told
        | cons first rest =>
            exact told
    | _ =>
        cases told
  · rfl

/-! ## Shapes of a token -/

namespace Holding

/-- An indexer lists a token with an object of metadata beside it. -/
structure IsIndexed
    (holding : Holding)
    (listed : IndexedToken) :
    Prop where
  contract : listed.contract = .text holding.contract
  amount : listed.balance = holding.amount
  decimals : listed.metadata.Tells "decimals" holding.decimals
  symbol : listed.metadata.Tells "symbol" holding.symbol
  name : listed.metadata.Tells "name" holding.name

/-- A node lists a token in one object. -/
structure IsFlat
    (holding : Holding)
    (listed : Json) :
    Prop where
  contract : listed.member "contractAddress" = .ok (.text holding.contract)
  amount : listed.lookup "balance" = .ok holding.amount
  decimals : listed.lookup "decimals" = .ok holding.decimals
  symbol : listed.lookup "symbol" = .ok holding.symbol
  name : listed.lookup "name" = .ok holding.name

/-- A token as an indexer lists it. -/
def indexed
    (holding : Holding) :
    IndexedToken where
  contract := .text holding.contract
  balance := holding.amount
  metadata := .object
    [("decimals", holding.decimals), ("symbol", holding.symbol), ("name", holding.name)]

/-- A token as a node lists it. -/
def flat
    (holding : Holding) :
    Json :=
  .object
    [("contractAddress", .text holding.contract), ("balance", holding.amount),
      ("decimals", holding.decimals), ("symbol", holding.symbol), ("name", holding.name)]

theorem isIndexed_indexed
    (holding : Holding) :
    holding.IsIndexed holding.indexed :=
  ⟨rfl, rfl, .inl rfl, .inl rfl, .inl rfl⟩

theorem isFlat_flat
    (holding : Holding) :
    holding.IsFlat holding.flat :=
  ⟨rfl, rfl, rfl, rfl, rfl⟩

/-- What is reported of a token. -/
def report
    (holding : Holding)
    (rendering : Rendering) :
    Except Fault TokenBalance := do
  let decimals ← rendering.decimals holding.decimals
  rendering.token (.text holding.contract) holding.amount decimals holding.symbol holding.name

theorem IsIndexed.indexedToken_eq
    {holding : Holding}
    {listed : IndexedToken}
    (isIndexed : holding.IsIndexed listed)
    (rendering : Rendering) :
    rendering.indexedToken listed = holding.report rendering := by
  have decimals := isIndexed.decimals.lookup_orEmpty
  have symbol := Json.getD_of_lookup isIndexed.symbol.lookup_orEmpty
  have name := Json.getD_of_lookup isIndexed.name.lookup_orEmpty
  simp only [Rendering.indexedToken, report, decimals, symbol, name, isIndexed.contract,
    isIndexed.amount, ok_bind]

theorem IsFlat.nodeToken_eq
    {holding : Holding}
    {listed : Json}
    (isFlat : holding.IsFlat listed)
    (rendering : Rendering) :
    rendering.nodeToken listed = holding.report rendering := by
  have amount := Json.getD_of_lookup isFlat.amount
  have symbol := Json.getD_of_lookup isFlat.symbol
  have name := Json.getD_of_lookup isFlat.name
  simp only [Rendering.nodeToken, report, isFlat.decimals, isFlat.contract, amount, symbol, name,
    ok_bind]

end Holding

/-! ## Shapes of a non-fungible token -/

namespace Collectible

/-- An indexer tells the contract and the collection in objects of their own. -/
structure IsIndexed
    (collectible : Collectible)
    (listed : Json) :
    Prop where
  contract :
    ∃ contract,
      listed.member "contract" = .ok contract ∧
        contract.member "address" = .ok (.text collectible.contract) ∧
        contract.lookup "openSeaMetadata" = .ok .null ∧
        contract.lookup "name" = .ok .null
  tokenId : listed.lookup "tokenId" = .ok collectible.tokenId
  name : listed.lookup "name" = .ok collectible.name
  collection :
    ∃ collection,
      listed.lookup "collection" = .ok collection ∧
        collection.Tells "name" collectible.collection
  image : listed.lookup "image" = .ok collectible.image

/-- A node tells everything in one object. -/
structure IsFlat
    (collectible : Collectible)
    (listed : Json) :
    Prop where
  contract : listed.member "contractAddress" = .ok (.text collectible.contract)
  tokenId : listed.lookup "tokenId" = .ok collectible.tokenId
  name : listed.lookup "name" = .ok collectible.name
  collection : listed.lookup "collectionName" = .ok collectible.collection
  image : listed.lookup "image" = .ok collectible.image

/-- A non-fungible token as an indexer lists it. -/
def indexed
    (collectible : Collectible) :
    Json :=
  .object
    [("contract", .object [("address", .text collectible.contract)]),
      ("tokenId", collectible.tokenId), ("name", collectible.name),
      ("collection", .object [("name", collectible.collection)]), ("image", collectible.image)]

/-- A non-fungible token as a node lists it. -/
def flat
    (collectible : Collectible) :
    Json :=
  .object
    [("contractAddress", .text collectible.contract), ("tokenId", collectible.tokenId),
      ("name", collectible.name), ("collectionName", collectible.collection),
      ("image", collectible.image)]

theorem isIndexed_indexed
    (collectible : Collectible) :
    collectible.IsIndexed collectible.indexed :=
  ⟨⟨_, rfl, rfl, rfl, rfl⟩, rfl, rfl, ⟨_, rfl, .inl rfl⟩, rfl⟩

theorem isFlat_flat
    (collectible : Collectible) :
    collectible.IsFlat collectible.flat :=
  ⟨rfl, rfl, rfl, rfl, rfl⟩

/-- What is reported of a non-fungible token. -/
def report
    (collectible : Collectible) :
    Except Fault NftBalance := do
  let tokenId ← Rendering.tokenIdText collectible.tokenId
  Rendering.nft (.text collectible.contract) tokenId collectible.collection collectible.name
    (Rendering.imageLink collectible.image)

/-- A name that counts as missing gets the default, wherever else the name was looked for. -/
theorem nft_collectionName
    {collection market contract own : Json}
    (told : collection.lookup "name" = .ok own)
    (unlisted : market.lookup "collectionName" = .ok .null)
    (unnamed : contract.lookup "name" = .ok .null)
    (mint : Json)
    (tokenId : String)
    (name image : Json) :
    (Rendering.collectionName collection market contract >>= fun found =>
        Rendering.nft mint tokenId found name image) =
      Rendering.nft mint tokenId own name image := by
  have noName := Json.getD_of_lookup unnamed
  rw [Rendering.collectionName, told, ok_bind]
  cases present : own.isPresent with
  | true =>
      rfl
  | false =>
      have fallsBack : own.orElse (.text unknownCollectionName) = .text unknownCollectionName := by
        rw [Json.orElse, present]
        rfl
      rw [unlisted, ok_bind, noName]
      simp only [Rendering.nft, fallsBack]
      rfl

theorem IsIndexed.indexedNft_eq
    {collectible : Collectible}
    {listed : Json}
    (isIndexed : collectible.IsIndexed listed) :
    Rendering.indexedNft listed = collectible.report := by
  rcases isIndexed.contract with ⟨contract, held, address, unlisted, unnamed⟩
  rcases isIndexed.collection with ⟨collection, kept, told⟩
  have keptToo := Json.getD_of_lookup kept
  have tokenId := Json.getD_of_lookup isIndexed.tokenId
  have name := Json.getD_of_lookup isIndexed.name
  have image := Json.getD_of_lookup isIndexed.image
  have contractOrEmpty : contract.orEmpty = contract :=
    Json.orElse_of_member address Json.empty
  have noMarket : Json.null.orEmpty.lookup "collectionName" = .ok .null := rfl
  simp only [Rendering.indexedNft, report, Json.lookup_of_member held, ok_bind, contractOrEmpty,
    keptToo, unlisted, Json.lookupOr_of_member address, tokenId, name, image,
    nft_collectionName told.lookup_orEmpty noMarket unnamed]

theorem IsFlat.nodeNft_eq
    {collectible : Collectible}
    {listed : Json}
    (isFlat : collectible.IsFlat listed) :
    Rendering.nodeNft listed = collectible.report := by
  have tokenId := Json.getD_of_lookup isFlat.tokenId
  have name := Json.getD_of_lookup isFlat.name
  have collection := Json.getD_of_lookup isFlat.collection
  have image := Json.getD_of_lookup isFlat.image
  have mint : (Json.text collectible.contract).orElse (.text "") = .text collectible.contract := by
    unfold Json.orElse Json.isPresent
    by_cases empty : collectible.contract = ""
    · simp [empty]
    · simp [empty]
  simp only [Rendering.nodeNft, report, Json.lookup_of_member isFlat.contract, ok_bind, mint,
    tokenId, name, collection, image]

end Collectible

/-! ## Shapes of a wallet -/

/-- Lists that describe the same things, and are rendered as these things are, render alike. -/
theorem mapM_eq_of_describe
    {α β γ δ : Type}
    {things : List α}
    {left : List β}
    {right : List γ}
    {describesLeft : α → β → Prop}
    {describesRight : α → γ → Prop}
    {report : α → Except Fault δ}
    {render : β → Except Fault δ}
    {other : γ → Except Fault δ}
    (leftDescribes : List.Forall₂ describesLeft things left)
    (rightDescribes : List.Forall₂ describesRight things right)
    (renders : ∀ thing listed, describesLeft thing listed → render listed = report thing)
    (rendersToo : ∀ thing listed, describesRight thing listed → other listed = report thing) :
    left.mapM render = right.mapM other := by
  have fromLeft : things.mapM report = left.mapM render :=
    mapM_eq_mapM (leftDescribes.imp fun thing listed here => (renders thing listed here).symm)
  have fromRight : things.mapM report = right.mapM other :=
    mapM_eq_mapM (rightDescribes.imp fun thing listed here => (rendersToo thing listed here).symm)
  exact fromLeft.symm.trans fromRight

namespace Rendering

/--
What an indexer and what a node answered about the same wallet is rendered to the same
balances, or to the same fault.
-/
theorem balances_indexed_eq_node
    {holdings : List Holding}
    {collectibles : List Collectible}
    {indexedTokens : List IndexedToken}
    {nodeTokens indexedNfts nodeNfts : List Json}
    (tokensIndexed : List.Forall₂ Holding.IsIndexed holdings indexedTokens)
    (tokensFlat : List.Forall₂ Holding.IsFlat holdings nodeTokens)
    (nftsIndexed : List.Forall₂ Collectible.IsIndexed collectibles indexedNfts)
    (nftsFlat : List.Forall₂ Collectible.IsFlat collectibles nodeNfts)
    (convertUnits : Bool)
    (native : Json)
    (indexedFailed nodeFailed : List String)
    (config : ChainConfig) :
    (⟨.evm, convertUnits⟩ : Rendering).balances
        (.indexed native indexedTokens indexedNfts indexedFailed) config =
      (⟨.evm, convertUnits⟩ : Rendering).balances
        (.node native nodeTokens nodeNfts nodeFailed) config := by
  have sameTokens := mapM_eq_of_describe tokensIndexed tokensFlat
    (fun _ _ here => here.indexedToken_eq ⟨.evm, convertUnits⟩)
    (fun _ _ here => here.nodeToken_eq ⟨.evm, convertUnits⟩)
  have sameNfts := mapM_eq_of_describe nftsIndexed nftsFlat
    (fun _ _ here => here.indexedNft_eq)
    (fun _ _ here => here.nodeNft_eq)
  simp only [balances, sameTokens, sameNfts]

/-! ## A wallet in both shapes -/

/-- A token without decimals, with a symbol that counts as missing. -/
def sampleHolding : Holding :=
  ⟨"0x1", .text "0x5", .null, .int 0, .text "Coin"⟩

/-- An indexer may leave the decimals out, and tell the rest in any order. -/
def sampleToken : IndexedToken :=
  ⟨.text "0x1", .text "0x5", .object [("name", .text "Coin"), ("symbol", .int 0)]⟩

/-- A non-fungible token with a number and a picture, of a collection without a name. -/
def sampleCollectible : Collectible :=
  ⟨"0x2", .int 7, .null, .text "", .object [("originalUrl", .text "https://picture")]⟩

/-- A wallet of which not everything is told, in both shapes. -/
theorem balances_indexed_eq_node_sample :
    List.Forall₂ Holding.IsIndexed [sampleHolding] [sampleToken] ∧
      List.Forall₂ Holding.IsFlat [sampleHolding] [sampleHolding.flat] ∧
      List.Forall₂ Collectible.IsIndexed [sampleCollectible] [sampleCollectible.indexed] ∧
      List.Forall₂ Collectible.IsFlat [sampleCollectible] [sampleCollectible.flat] ∧
      (⟨.evm, true⟩ : Rendering).balances
          (.indexed (.text "1") [sampleToken] [sampleCollectible.indexed] ["token_metadata"])
          (Chain.ofId .ethereum).config =
        (⟨.evm, true⟩ : Rendering).balances
          (.node (.text "1") [sampleHolding.flat] [sampleCollectible.flat] [])
          (Chain.ofId .ethereum).config := by
  have isIndexed : sampleHolding.IsIndexed sampleToken :=
    ⟨rfl, rfl, .inl rfl, .inl rfl, .inl rfl⟩
  have tokensIndexed := List.Forall₂.cons isIndexed .nil
  have tokensFlat := List.Forall₂.cons sampleHolding.isFlat_flat .nil
  have nftsIndexed := List.Forall₂.cons sampleCollectible.isIndexed_indexed .nil
  have nftsFlat := List.Forall₂.cons sampleCollectible.isFlat_flat .nil
  exact ⟨tokensIndexed, tokensFlat, nftsIndexed, nftsFlat,
    balances_indexed_eq_node tokensIndexed tokensFlat nftsIndexed nftsFlat true (.text "1")
      ["token_metadata"] [] (Chain.ofId .ethereum).config⟩

end Rendering

end Holdings
