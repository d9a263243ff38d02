import Holdings.Proofs.Backend.Lookups
import Holdings.Proofs.Balances.Strategies
import Holdings.Proofs.Codec.Base64
import Holdings.Proofs.Json.Path

/-!
# Networks that know a wallet

A network knows a wallet when it answers every call that asks for a part of it
with just this part.  Then each part of the balances comes to what the wallet
holds, whatever was asked before, and whatever agrees with the metadata accounts
may have been kept meanwhile.
-/

namespace Holdings.Backend

open Fetch Solana

/-! ## Answers about a wallet -/

/-- Where an entry of a list of token accounts tells about the account. -/
def infoPath : List String := ["account", "data", "parsed", "info"]

/-- An entry of a list tells of a token account; its decimals may be missing. -/
structure TellsAccount
    (entry : Json)
    (account : SolanaNode.AccountEntry) :
    Prop where
  mint : entry.path (infoPath ++ ["mint"]) = .ok account.mint
  amount : entry.path (infoPath ++ ["tokenAmount", "amount"]) = .ok account.amount
  decimals : ∃ tokenAmount,
    entry.path (infoPath ++ ["tokenAmount"]) = .ok tokenAmount ∧
      tokenAmount.lookup "decimals" = .ok account.decimals

/-- An entry of a list of accounts tells about a token account. -/
structure IsTokenAccount
    (held : HeldToken)
    (entry : Json) :
    Prop where
  mint : entry.path (infoPath ++ ["mint"]) = .ok (.text held.mint.text)
  amount :
    entry.path (infoPath ++ ["tokenAmount", "amount"]) = .ok (.text (Text.decimalText held.amount))
  decimals : entry.path (infoPath ++ ["tokenAmount", "decimals"]) = .ok (.int held.decimals)

/-- The data of an account are a metadata account in base 64, whatever bytes follow it. -/
def HoldsMetadata
    (stored : StoredMetadata)
    (account : Json) :
    Prop :=
  ∃ trailing others,
    account.member "data" =
      .ok (.array (.text (Base64.encode (stored.encode ++ trailing)) :: others))

/-- A result whose value is a list of token accounts. -/
def ListsTokens
    (tokens : List HeldToken)
    (result : Json) :
    Prop :=
  ∃ entries,
    result.member "value" = .ok (.array entries) ∧ List.Forall₂ IsTokenAccount tokens entries

/-- A result whose value is the metadata account of a mint, or null when it has none. -/
def ShowsRecord
    (record? : Option StoredMetadata)
    (result : Json) :
    Prop :=
  ∃ value, result.member "value" = .ok value ∧
    match record? with
    | some stored => HoldsMetadata stored value
    | none => value = .null

/-- A result that is a list of metadata accounts. -/
def ListsRecords
    (records : List StoredMetadata)
    (result : Json) :
    Prop :=
  ∃ entries, result = .array entries ∧
    List.Forall₂
      (fun stored entry =>
        ∃ account, entry.member "account" = .ok account ∧ HoldsMetadata stored account)
      records entries

/-- At any time, a network answers the calls for a wallet with what the wallet holds. -/
structure Knows
    (network : Network)
    (transport : Transport)
    (node : SolanaNode)
    (address : Json)
    (wallet : Wallet) :
    Prop where
  native :
    transport.Answers network node.endpoint "getBalance" [address] fun result =>
      result.member "value" = .ok (.int wallet.lamports)
  classic :
    transport.Answers network node.endpoint "getTokenAccountsByOwner"
      (SolanaNode.accountParams address tokenProgram) (ListsTokens wallet.classic)
  extended :
    transport.Answers network node.endpoint "getTokenAccountsByOwner"
      (SolanaNode.accountParams address extendedTokenProgram) (ListsTokens wallet.extended)
  records : ∀ held ∈ wallet.tokens, ∀ account,
    held.mint.metadataAccount? = some account →
      transport.Answers network node.endpoint "getAccountInfo"
        (infoParams (Base58.encode account)) (ShowsRecord (wallet.record? held))
  nfts :
    transport.Answers network node.endpoint "getProgramAccounts" (node.searchParams address)
      (ListsRecords wallet.nfts)

/-! ## Reading the answers -/

/-- An account is read at the place where its entry tells about it. -/
theorem readAccount_eq
    (entry : Json) :
    SolanaNode.readAccount entry = do
      let info ← entry.path infoPath
      let mint ← info.member "mint"
      let tokenAmount ← info.member "tokenAmount"
      let amount ← tokenAmount.member "amount"
      let decimals ← tokenAmount.lookup "decimals"
      return { mint, amount, decimals } := by
  simp only [SolanaNode.readAccount, infoPath, Json.path, bind_assoc, Outcome.ok_bind]

theorem readAccount_eq_ok_iff
    {entry : Json}
    {account : SolanaNode.AccountEntry} :
    SolanaNode.readAccount entry = .ok account ↔ TellsAccount entry account := by
  rw [readAccount_eq]
  constructor
  · intro read
    rcases Outcome.bind_eq_ok.1 read with ⟨info, there, read⟩
    rcases Outcome.bind_eq_ok.1 read with ⟨mint, hasMint, read⟩
    rcases Outcome.bind_eq_ok.1 read with ⟨tokenAmount, hasTokenAmount, read⟩
    rcases Outcome.bind_eq_ok.1 read with ⟨amount, hasAmount, read⟩
    rcases Outcome.bind_eq_ok.1 read with ⟨decimals, hasDecimals, same⟩
    cases same
    constructor
    · rw [Json.path_append, there, Outcome.ok_bind, Json.path_singleton, hasMint]
    · rw [Json.path_append, there, Outcome.ok_bind, Json.path_cons_eq_ok]
      exact ⟨tokenAmount, hasTokenAmount, (Json.path_singleton _ _).trans hasAmount⟩
    · refine ⟨tokenAmount, ?_, hasDecimals⟩
      rw [Json.path_append, there, Outcome.ok_bind, Json.path_singleton, hasTokenAmount]
  · rintro ⟨mint, amount, tokenAmount, hasTokenAmount, decimals⟩
    rw [Json.path_append] at mint amount hasTokenAmount
    rcases Outcome.bind_eq_ok.1 mint with ⟨info, there, mint⟩
    rw [there, Outcome.ok_bind] at amount hasTokenAmount
    rw [Json.path_singleton] at mint hasTokenAmount
    rw [Json.path, hasTokenAmount, Outcome.ok_bind, Json.path_singleton] at amount
    rw [there, Outcome.ok_bind, mint, Outcome.ok_bind, hasTokenAmount, Outcome.ok_bind, amount,
      Outcome.ok_bind, decimals]
    rfl

theorem readAccount_of_isTokenAccount
    {held : HeldToken}
    {entry : Json}
    (tells : IsTokenAccount held entry) :
    SolanaNode.readAccount entry = .ok held.entry := by
  have whole : infoPath ++ ["tokenAmount", "decimals"] =
      (infoPath ++ ["tokenAmount"]) ++ ["decimals"] :=
    rfl
  have decimals := tells.decimals
  rw [whole, Json.path_append] at decimals
  rcases Outcome.bind_eq_ok.1 decimals with ⟨tokenAmount, there, decimals⟩
  rw [Json.path_singleton] at decimals
  exact readAccount_eq_ok_iff.2
    ⟨tells.mint, tells.amount, tokenAmount, there, Json.lookup_of_member decimals⟩

/-- Entries that tell about token accounts are all read, in order. -/
theorem readAccounts_of_forall₂
    {tokens : List HeldToken}
    {entries : List Json}
    (all : List.Forall₂ IsTokenAccount tokens entries) :
    SolanaNode.readAccounts entries = tokens.map HeldToken.entry := by
  induction all with
  | nil =>
      rfl
  | cons here _ induction =>
      rw [SolanaNode.readAccounts] at induction ⊢
      rw [List.filterMap_cons, readAccount_of_isTokenAccount here]
      exact congrArg (_ :: ·) induction

theorem programAccounts_of_listsTokens
    {tokens : List HeldToken}
    {result : Json}
    (lists : ListsTokens tokens result) :
    SolanaNode.programAccounts result = .ok (tokens.map HeldToken.entry) := by
  rcases lists with ⟨entries, there, all⟩
  rw [SolanaNode.programAccounts, Json.lookupOr_of_member there, Outcome.ok_bind,
    ← readAccounts_of_forall₂ all]
  rfl

/-- A metadata account is read as what it says. -/
theorem readMetadata_of_holdsMetadata
    {stored : StoredMetadata}
    {account : Json}
    (holds : HoldsMetadata stored account) :
    (do SolanaNode.readMetadata (← account.member "data")) = .ok stored.metadata := by
  rcases holds with ⟨trailing, others, there⟩
  rw [there, Outcome.ok_bind, SolanaNode.readMetadata, Json.firstItem, Outcome.ok_bind]
  dsimp only
  rw [Base64.decode_encode, Outcome.ok_bind]
  exact StoredMetadata.decode_of_reads stored.reads_readFields

theorem readInfo_of_showsRecord
    {record? : Option StoredMetadata}
    {result : Json}
    (shows : ShowsRecord record? result) :
    readInfo result = .ok (record?.map StoredMetadata.metadata) := by
  rcases shows with ⟨value, there, told⟩
  rw [readInfo, Json.orEmpty, Json.orElse_of_member there, Json.lookup_of_member there,
    Outcome.ok_bind]
  cases record? with
  | none =>
      cases told
      rfl
  | some stored =>
      have read := readMetadata_of_holdsMetadata told
      rcases Outcome.bind_eq_ok.1 read with ⟨data, dataThere, decoded⟩
      rw [if_pos (Json.isPresent_of_member dataThere), dataThere, Outcome.ok_bind, decoded]
      rfl

theorem readFoundAccounts_of_forall₂
    {records : List StoredMetadata}
    {entries : List Json}
    (all : List.Forall₂
      (fun stored entry =>
        ∃ account, entry.member "account" = .ok account ∧ HoldsMetadata stored account)
      records entries) :
    SolanaNode.readFoundAccounts entries =
      .ok (records.map fun stored => SolanaNode.nftEntry stored.metadata) := by
  induction all with
  | nil =>
      rfl
  | cons here _ induction =>
      rcases here with ⟨account, there, holds⟩
      have read := readMetadata_of_holdsMetadata holds
      rw [SolanaNode.readFoundAccounts, SolanaNode.readFoundAccount, there, Outcome.ok_bind, read,
        induction]
      rfl

/-! ## The parts of the balances -/

variable {network : Network} {transport : Transport} {node : SolanaNode} {address : Json}
  {wallet : Wallet}

namespace Knows

theorem comesTo_nativeBalance
    (knows : Knows network transport node address wallet)
    (printable : wallet.lamports < 10 ^ Text.numeralLimit) :
    (node.nativeBalance transport address).ComesTo network
      (· = Text.decimalText wallet.lamports) := by
  apply knows.native.comesTo.bind
  intro result there
  rw [there, liftM_ok_bind]
  exact .lift (Amount.print_int printable) rfl

theorem comesTo_tokenAccounts
    (knows : Knows network transport node address wallet) :
    (node.tokenAccounts transport address).ComesTo network
      (· = wallet.tokens.map HeldToken.entry) := by
  apply knows.classic.comesTo.attempt.bind
  rintro _ ⟨classic, rfl, listsClassic⟩
  apply knows.extended.comesTo.attempt.bind
  rintro _ ⟨extended, rfl, listsExtended⟩
  have joined : SolanaNode.joinPrograms (.ok classic) (.ok extended) = do
      let first ← SolanaNode.programAccounts classic
      let second ← SolanaNode.programAccounts extended
      return first ++ second :=
    rfl
  refine .lift ?_ rfl
  rw [joined, programAccounts_of_listsTokens listsClassic,
    programAccounts_of_listsTokens listsExtended, Wallet.tokens, List.map_append]
  rfl

theorem comesTo_nfts
    (knows : Knows network transport node address wallet) :
    (node.nfts transport address).ComesTo network
      (· = wallet.nfts.map fun stored => SolanaNode.nftEntry stored.metadata) := by
  apply knows.nfts.comesTo.bind
  rintro _ ⟨entries, rfl, all⟩
  have elements : ((Json.array entries).orElse (.array [])).elements = .ok entries := by
    cases entries <;> rfl
  rw [elements, liftM_ok_bind]
  exact .lift (readFoundAccounts_of_forall₂ all) rfl

/-- Whatever is kept, a look-up tells what is known about the mint of a token account. -/
theorem tells_lookupMint
    (knows : Knows network transport node address wallet)
    {cache : MintCache}
    (agrees : cache.Agrees wallet)
    {held : HeldToken}
    (member : held ∈ wallet.tokens)
    (log : Log) :
    Tells (wallet.record? held)
      ((node.lookupMint transport cache held.entry.mint).run network log).1.toOption := by
  show Tells _ ((node.lookupMint transport cache (.text held.mint.text)).run network log).1.toOption
  cases kept : cache.get? held.mint.text with
  | some record =>
      rw [SolanaNode.run_lookupMint_of_some kept, Tells, agrees held member record kept]
      rfl
  | none =>
      cases derived : metadataAddress held.mint.text with
      | error fault =>
          have unknown : wallet.record? held = none := by
            by_contra known
            have derivable := wallet.derivable held.mint known
            rcases Option.ne_none_iff_exists'.1 derivable with ⟨bytes, there⟩
            cases derived.symm.trans (Address.metadataAddress_text.2 ⟨bytes, there, rfl⟩)
          rw [SolanaNode.run_lookupMint_of_no_account kept derived, unknown]
          rfl
      | ok account =>
          rcases Address.metadataAddress_text.1 derived with ⟨bytes, there, rfl⟩
          rcases knows.records held member bytes there log.calls with ⟨result, received, shows⟩
          have info := readInfo_of_showsRecord shows
          rw [SolanaNode.run_lookupMint_of_account kept derived, receiveInfo, infoCall, received,
            Outcome.ok_bind, info]
          cases wallet.record? held <;> rfl

/-- A network that knows a wallet tells nothing else about its mints. -/
theorem faithful
    (knows : Knows network transport node address wallet) :
    Faithful wallet transport node.endpoint network := by
  intro held member earlier account metadata derived received
  rcases knows.records held member account derived earlier with ⟨result, answered, shows⟩
  rw [receiveInfo, infoCall, answered, Outcome.ok_bind, readInfo_of_showsRecord shows] at received
  cases known : wallet.record? held with
  | none =>
      rw [known] at received
      cases received
  | some stored =>
      rw [known] at received
      cases received
      rw [Wallet.Confirms, known]
      rfl

/-! ## All parts together -/

variable {rendering : Rendering} {config : ChainConfig} {cache : MintCache} {expected : Balances}

/-- The token accounts of a wallet are listed with what is known about their mints. -/
theorem listed_eq
    (knows : Knows network transport node address wallet)
    (agrees : cache.Agrees wallet)
    (converts : rendering.convertUnits = true)
    {tokens : List TokenBalance}
    (normalized : (wallet.tokens.mapM fun held => held.balance (wallet.record? held)) = .ok tokens)
    (chain : ChainId)
    (tier : Tier)
    (log : Log) :
    (((solanaStrategy rendering transport node cache address).listed chain tier
      (some (wallet.tokens.map HeldToken.entry))).run network log).1 = .ok tokens := by
  rcases exists_run_fetchEach chain tier
      (fun entry : SolanaNode.AccountEntry => node.lookupMint transport cache entry.mint)
      (wallet.tokens.map HeldToken.entry) network log with
    ⟨lookups, later, fetched, own⟩
  rw [List.forall₂_map_left_iff] at own
  have told : List.Forall₂ (fun held => Tells (wallet.record? held)) wallet.tokens lookups := by
    have members := (List.forall₂_and_left wallet.tokens lookups).2
      ⟨fun held (member : held ∈ wallet.tokens) => member, own⟩
    apply members.imp
    rintro held lookup ⟨member, before, rfl⟩
    exact knows.tells_lookupMint agrees member before
  show (((fetchEach chain tier (fun entry : SolanaNode.AccountEntry =>
      node.lookupMint transport cache entry.mint) (wallet.tokens.map HeldToken.entry)) >>=
    fun lookups => ofExcept (((wallet.tokens.map HeldToken.entry).zipWith
      SolanaNode.tokenAccount lookups).mapM rendering.accountToken)).run network log).1 = _
  rw [run_bind_of_ok fetched, run_ofExcept]
  exact mapM_accountToken converts told normalized

/-- The report about a wallet that a network knows tells what the wallet holds. -/
theorem report_eq
    (knows : Knows network transport node address wallet)
    (agrees : cache.Agrees wallet)
    (converts : rendering.convertUnits = true)
    (decimals : config.nativeDecimals = Wallet.nativeDecimals)
    (normalized : wallet.balances = .ok expected)
    (chain : ChainId)
    (tier : Tier)
    (log : Log) :
    (solanaStrategy rendering transport node cache address).report (rendering.nativeText config)
      chain tier network log = ⟨expected.native, .ok expected.tokens, .ok expected.nfts⟩ := by
  rcases Outcome.bind_eq_ok.1 normalized with ⟨native, nativeNormalized, rest⟩
  rcases Outcome.bind_eq_ok.1 rest with ⟨tokens, tokensNormalized, same⟩
  cases same
  let strategy := solanaStrategy rendering transport node cache address
  have nativeText :
      rendering.nativeText config (some (Text.decimalText wallet.lamports)) = native := by
    rw [Rendering.nativeText, decimals, Json.ofText?,
      amount_of_normalize converts (Amount.normalize_decimalText nativeNormalized)]
    rfl
  have nativeRun : (strategy.nativeRun network log).1 = .ok (Text.decimalText wallet.lamports) :=
    (knows.comesTo_nativeBalance (Amount.printable_of_normalize nativeNormalized)).outcome_eq log
  have tokensRun :
      (strategy.tokensRun network log).1 = .ok (wallet.tokens.map HeldToken.entry) :=
    knows.comesTo_tokenAccounts.outcome_eq _
  have nftsRun : (strategy.nftsRun network log).1 =
      .ok (wallet.nfts.map fun stored => SolanaNode.nftEntry stored.metadata) :=
    knows.comesTo_nfts.outcome_eq _
  have nfts := mapM_solanaNft wallet.nfts
  have listed := knows.listed_eq agrees converts tokensNormalized chain tier
    (strategy.nftsRun network log).2
  rw [Strategy.report, nativeRun, tokensRun, nftsRun]
  exact congr (congr (congrArg Report.mk nativeText) listed) nfts

/-- A node that is asked about a wallet that the network knows answers with the wallet. -/
theorem exists_run_balances
    (knows : Knows network transport node address wallet)
    (agrees : cache.Agrees wallet)
    (family : rendering.family = .solana)
    (converts : rendering.convertUnits = true)
    (decimals : config.nativeDecimals = Wallet.nativeDecimals)
    (normalized : wallet.balances = .ok expected)
    (chain : ChainId)
    (tier : Tier)
    (log : Log) :
    ∃ payload kept grown,
      (Backend.balances (.solanaNode node cache) transport chain address tier).run network log =
          (.ok (payload, kept), grown) ∧
        rendering.balances payload config = .ok expected := by
  have moderate : IsModerate config.nativeDecimals := by
    rw [decimals]
    exact ⟨by decide, by decide⟩
  have sameFamily : (Backend.solanaNode node cache).family = rendering.family := family.symm
  have answered := toOption_balances sameFamily (Rendering.amount_native moderate) transport chain
    address tier network log
  rw [strategy, knows.report_eq agrees converts decimals normalized] at answered
  cases ended : (Backend.balances (.solanaNode node cache) transport chain address tier).run
      network log with
  | mk outcome grown =>
      rw [ended] at answered
      cases outcome with
      | error fault =>
          cases answered
      | ok value =>
          have told : (rendering.balances value.1 config).toOption = some expected := answered
          refine ⟨value.1, value.2, grown, rfl, ?_⟩
          cases rendered : rendering.balances value.1 config with
          | error fault =>
              rw [rendered] at told
              cases told
          | ok balances =>
              rw [rendered] at told
              cases told
              rfl

end Knows

end Holdings.Backend
