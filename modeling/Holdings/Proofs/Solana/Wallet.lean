import Holdings.Backend.SolanaNode
import Holdings.Balances.Rendering
import Holdings.Proofs.Amount.Decimal
import Holdings.Proofs.Balances.Native
import Holdings.Proofs.Solana.Addresses

/-!
# Wallets

What a wallet of Solana holds, apart from any network: lamports, token accounts
under two programs, non-fungible tokens, and the metadata accounts of mints.  Its
balances follow from this alone.  They are what a rendering makes of accounts
whose amounts are given as text and whose mints have been looked up.
-/

namespace Holdings.Solana

open Backend

/-- A token account. -/
structure HeldToken where
  mint : Address
  amount : Nat
  decimals : Nat
deriving DecidableEq, Repr

/-- What a wallet holds, and what there is to be known about it. -/
structure Wallet where
  lamports : Nat
  /-- The accounts of the classic token program. -/
  classic : List HeldToken
  /-- The accounts of the extended token program. -/
  extended : List HeldToken
  /-- What stands in the metadata account of a mint. -/
  records : Address → Option StoredMetadata
  derivable : ∀ mint, records mint ≠ none → mint.metadataAccount? ≠ none
  nfts : List StoredMetadata

/-! ## Balances -/

/-- A text, or a fallback when there is none or it is empty. -/
def toldText
    (fallback : String) :
    Option String → String
  | none => fallback
  | some text => if text = "" then fallback else text

/-- What is told about the mint of a token account. -/
def HeldToken.metadata
    (held : HeldToken)
    (record? : Option StoredMetadata) :
    TokenMetadata where
  symbol := toldText unknownSymbol (record?.map (·.symbol.text))
  decimals := held.decimals
  name := toldText unknownTokenName (record?.map (·.name.text))

/-- The balance of a token account. -/
def HeldToken.balance
    (held : HeldToken)
    (record? : Option StoredMetadata) :
    Except Fault TokenBalance := do
  return {
    mint := held.mint.text
    balance := ← Amount.normalize (.int held.amount) held.decimals
    metadata := held.metadata record? }

/-- The non-fungible token that a metadata account stands for. -/
def StoredMetadata.nft
    (stored : StoredMetadata) :
    NftBalance where
  mint := stored.mint.text
  tokenId := ""
  collection := unknownCollectionName
  name := toldText unknownNftName (some stored.name.text)
  image := stored.link.text

namespace Wallet

/-- The decimals of the native asset. -/
def nativeDecimals : Nat := 9

/-- All token accounts, the classic ones first. -/
def tokens
    (wallet : Wallet) :
    List HeldToken :=
  wallet.classic ++ wallet.extended

/-- What is known about the mint of a token account. -/
def record?
    (wallet : Wallet)
    (held : HeldToken) :
    Option StoredMetadata :=
  wallet.records held.mint

/-- The balances of a wallet, unless some amount has no text. -/
def balances
    (wallet : Wallet) :
    Except Fault Balances := do
  return {
    native := ← Amount.normalize (.int wallet.lamports) nativeDecimals
    tokens := ← wallet.tokens.mapM fun held => held.balance (wallet.record? held)
    nfts := wallet.nfts.map StoredMetadata.nft }

end Wallet

/-! ## Amounts that fit into words -/

/-- All amounts have 64 bits and all decimals eight, as the programs keep them. -/
structure Wallet.FitsWords
    (wallet : Wallet) :
    Prop where
  lamports : wallet.lamports < 2 ^ 64
  amounts : ∀ held ∈ wallet.tokens, held.amount < 2 ^ 64
  decimals : ∀ held ∈ wallet.tokens, held.decimals < 2 ^ 8

theorem normalize_word
    {amount decimals : Nat}
    (word : amount < 2 ^ 64)
    (byte : decimals < 2 ^ 8) :
    Amount.normalize (.int amount) decimals = .ok (Amount.wholeUnits amount decimals) := by
  have printable : amount < 10 ^ Text.numeralLimit := by
    calc
      amount < 2 ^ 64 := word
      _ ≤ 10 ^ 20 := by decide
      _ ≤ 10 ^ Text.numeralLimit := Nat.pow_le_pow_right (by decide) (by decide)
  have precise : Amount.IsPrecise (Text.digitCount amount) decimals := by
    apply Amount.isPrecise_of_lt printable
    unfold Amount.precisionCap Text.numeralLimit
    omega
  rw [Amount.normalize_eq_text (Amount.read_natural amount) printable precise,
    Amount.PlainDecimal.text_ofAmount]

theorem mapM_balance_of_words
    (record? : HeldToken → Option StoredMetadata)
    {tokens : List HeldToken}
    (amounts : ∀ held ∈ tokens, held.amount < 2 ^ 64)
    (decimals : ∀ held ∈ tokens, held.decimals < 2 ^ 8) :
    (tokens.mapM fun held => held.balance (record? held)) =
      .ok (tokens.map fun held =>
        ⟨held.mint.text, Amount.wholeUnits held.amount held.decimals,
          held.metadata (record? held)⟩) := by
  induction tokens with
  | nil =>
      rfl
  | cons first rest induction =>
      rw [List.forall_mem_cons] at amounts decimals
      rw [List.mapM_cons, HeldToken.balance, normalize_word amounts.1 decimals.1,
        induction amounts.2 decimals.2]
      rfl

/-- Amounts that fit into words are all written in whole units. -/
theorem Wallet.FitsWords.balances_eq
    {wallet : Wallet}
    (fits : wallet.FitsWords) :
    wallet.balances = .ok {
      native := Amount.wholeUnits wallet.lamports nativeDecimals
      tokens := wallet.tokens.map fun held =>
        ⟨held.mint.text, Amount.wholeUnits held.amount held.decimals,
          held.metadata (wallet.record? held)⟩
      nfts := wallet.nfts.map StoredMetadata.nft } := by
  rw [Wallet.balances, normalize_word fits.lamports (by decide),
    mapM_balance_of_words wallet.record? fits.amounts fits.decimals]
  rfl

/-! ## Renderings -/

theorem toldText_empty
    (text : String) :
    toldText "" (some text) = text := by
  by_cases empty : text = ""
  · rw [toldText, if_pos empty, empty]
  · rw [toldText, if_neg empty]

theorem orElse_text
    (text fallback : String) :
    (Json.text text).orElse (.text fallback) = .text (toldText fallback (some text)) := by
  by_cases empty : text = ""
  · simp [Json.orElse, Json.isPresent, toldText, empty]
  · simp [Json.orElse, Json.isPresent, toldText, empty]

/-- Texts are told as they are, unless they are empty. -/
theorem tokenMetadata_text
    (symbol name : String)
    (decimals : Nat) :
    Rendering.tokenMetadata (.text symbol) decimals (.text name) =
      .ok {
        symbol := toldText unknownSymbol (some symbol)
        decimals
        name := toldText unknownTokenName (some name) } := by
  rw [Rendering.tokenMetadata, orElse_text, orElse_text]
  rfl

/-- The account of a held token as a node lists it. -/
def HeldToken.entry
    (held : HeldToken) :
    SolanaNode.AccountEntry :=
  ⟨.text held.mint.text, .text (Text.decimalText held.amount), .int held.decimals⟩

/-- What is kept of a metadata account. -/
def StoredMetadata.record
    (stored : StoredMetadata) :
    MintRecord :=
  .ofMetadata stored.metadata

/-- A record says what the metadata account of a mint says. -/
def Wallet.Confirms
    (wallet : Wallet)
    (held : HeldToken)
    (record : MintRecord) :
    Prop :=
  (wallet.record? held).map StoredMetadata.record = some record

/-- A look-up that came to the record of a mint, or to none when there is none. -/
def Tells
    (record? : Option StoredMetadata)
    (lookup : Option MintLookup) :
    Prop :=
  lookup.bind MintLookup.record? = record?.map StoredMetadata.record

theorem tokenMetadata_of_tells
    {record? : Option StoredMetadata}
    {lookup : Option MintLookup}
    (tells : Tells record? lookup)
    (held : HeldToken) :
    let metadata := ((lookup.map MintLookup.toJson).getD .null).orEmpty
    (do
      let symbol ← metadata.lookup "symbol"
      Rendering.tokenMetadata symbol held.decimals (metadata.getD "name")) =
        .ok (held.metadata record?) := by
  have written : (lookup.map MintLookup.toJson).getD .null =
      ((record?.map StoredMetadata.record).map MintRecord.toJson).getD .null := by
    rw [← tells]
    cases lookup with
    | none =>
        rfl
    | some found =>
        cases found <;> rfl
  rw [written]
  cases record? with
  | none =>
      rfl
  | some stored =>
      exact tokenMetadata_text stored.symbol.text stored.name.text held.decimals

variable {rendering : Rendering}

theorem amount_of_normalize
    (converts : rendering.convertUnits = true)
    {given : Json}
    {decimals : Int}
    {text : String}
    (normalized : Amount.normalize given decimals = .ok text) :
    rendering.amount given decimals = .ok text := by
  rw [Rendering.amount, Rendering.convert, if_pos converts, normalized]

/-- A token account is rendered as its balance once its mint was looked up. -/
theorem accountToken_of_tells
    (converts : rendering.convertUnits = true)
    {held : HeldToken}
    {record? : Option StoredMetadata}
    {lookup : Option MintLookup}
    {balance : TokenBalance}
    (tells : Tells record? lookup)
    (expected : held.balance record? = .ok balance) :
    rendering.accountToken (SolanaNode.tokenAccount held.entry lookup) = .ok balance := by
  rcases Outcome.bind_eq_ok.1 expected with ⟨text, normalized, same⟩
  cases same
  have decimals : rendering.decimals (.int held.decimals) = .ok held.decimals := by
    simp [Rendering.decimals, Rendering.acceptDecimals]
  have amount := amount_of_normalize converts (Amount.normalize_decimalText normalized)
  have metadata := tokenMetadata_of_tells tells held
  rcases Outcome.bind_eq_ok.1 metadata with ⟨symbol, found, told⟩
  simp only [Rendering.accountToken, SolanaNode.tokenAccount, HeldToken.entry, decimals, amount,
    found, told, Rendering.requireText, Outcome.ok_bind]
  rfl

/-- A metadata account that was found is rendered as a token with what it says. -/
theorem solanaNft_nftEntry
    (metadata : Metadata) :
    Rendering.solanaNft (SolanaNode.nftEntry metadata) =
      .ok {
        mint := metadata.mint
        tokenId := ""
        collection := unknownCollectionName
        name := toldText unknownNftName (some metadata.name)
        image := metadata.link } := by
  have mint : (Json.text metadata.mint).orElse (.text "") = .text metadata.mint := by
    rw [orElse_text, toldText_empty]
  have link : (Json.text metadata.link).orElse (.text "") = .text metadata.link := by
    rw [orElse_text, toldText_empty]
  have name := orElse_text metadata.name unknownNftName
  show Rendering.nft ((Json.text metadata.mint).orElse (.text "")) "" .null
    (.text metadata.name) (.text metadata.link) = _
  rw [mint, Rendering.nft, link, name]
  rfl

theorem mapM_accountToken
    (converts : rendering.convertUnits = true)
    {record? : HeldToken → Option StoredMetadata}
    {tokens : List HeldToken}
    {lookups : List (Option MintLookup)}
    {balances : List TokenBalance}
    (all : List.Forall₂ (fun held => Tells (record? held)) tokens lookups)
    (expected : (tokens.mapM fun held => held.balance (record? held)) = .ok balances) :
    (((tokens.map HeldToken.entry).zipWith SolanaNode.tokenAccount lookups).mapM
      rendering.accountToken) = .ok balances := by
  induction all generalizing balances with
  | nil =>
      exact expected
  | cons here _ induction =>
      rw [List.mapM_cons] at expected
      rcases Outcome.bind_eq_ok.1 expected with ⟨first, firstExpected, later⟩
      rcases Outcome.bind_eq_ok.1 later with ⟨rest, restExpected, same⟩
      cases same
      rw [List.map_cons, List.zipWith_cons_cons, List.mapM_cons,
        accountToken_of_tells converts here firstExpected, Outcome.ok_bind,
        induction restExpected]
      rfl

theorem mapM_solanaNft
    (records : List StoredMetadata) :
    ((records.map fun stored => SolanaNode.nftEntry stored.metadata).mapM Rendering.solanaNft) =
      .ok (records.map StoredMetadata.nft) := by
  induction records with
  | nil =>
      rfl
  | cons first rest induction =>
      rw [List.map_cons, List.mapM_cons, solanaNft_nftEntry, Outcome.ok_bind, induction]
      rfl

end Holdings.Solana
