import Holdings.Proofs.Backend.Serving
import Holdings.Proofs.Provider.Balances
import Holdings.Proofs.Provider.Runs

/-!
# Wallets from end to end

A provider of Solana is asked about a wallet while the network knows it, and
answers with just this wallet.  What it was asked before makes no difference, as
long as no network ever told anything about a mint but what stands in its
metadata account: the records that are kept then agree with those accounts.
-/

namespace Holdings.Provider

open Fetch Solana

/-! ## The node of a tier -/

/-- A node at an endpoint that keeps nothing but what agrees with metadata accounts. -/
def IsNodeAt
    (endpoint : String)
    (wallet : Wallet) :
    Backend → Prop
  | .solanaNode node cache => node = .standard endpoint ∧ cache.Agrees wallet
  | _ => False

theorem IsNodeAt.exists_cache
    {endpoint : String}
    {wallet : Wallet}
    {backend : Backend}
    (isNode : IsNodeAt endpoint wallet backend) :
    ∃ cache,
      backend = .solanaNode (.standard endpoint) cache ∧ cache.Agrees wallet := by
  cases backend with
  | solanaNode node cache =>
      rcases isNode with ⟨rfl, agrees⟩
      exact ⟨cache, rfl, agrees⟩
  | _ =>
      exact isNode.elim

variable {provider : Provider} {tier : Tier} {endpoint : String} {wallet : Wallet}
  {past : Network}

/-- On Solana, the route of a tier opens a node at the endpoint of the tier. -/
theorem IsRouted.opens_solana
    (routed : provider.IsRouted)
    (solana : provider.chain.family = .solana)
    (opened : provider.baseUrl tier = .ok endpoint) :
    provider.opens tier = .ok (.solanaNode (.standard endpoint) .empty) := by
  rcases Outcome.bind_eq_ok.1 opened with ⟨route, found, url⟩
  have sameBuild := (routed.routes tier route (route_eq_ok.1 found)).2.1
  rw [opens, found, Outcome.ok_bind, sameBuild, solana]
  show Builder.solanaNode route.source tier route.credential = _
  rw [Builder.solanaNode, url]
  rfl

/-- The node of a tier stays at its endpoint and goes on keeping what agrees. -/
theorem maintains_isNodeAt
    (opens : provider.opens tier = .ok (.solanaNode (.standard endpoint) .empty))
    (faithful : Backend.Faithful wallet provider.transport endpoint past) :
    provider.Maintains past fun other backend =>
      other = tier → IsNodeAt endpoint wallet backend := by
  constructor
  · rintro other backend opened rfl
    cases opens.symm.trans opened
    exact ⟨rfl, Backend.MintCache.agrees_empty wallet⟩
  · intro other backend address log payload kept grown here ended same
    rcases (here same).exists_cache with ⟨cache, rfl, agrees⟩
    rcases bind_run_eq_ok ended with ⟨⟨content, cacheKept⟩, between, asked, sameKept⟩
    cases sameKept
    exact ⟨rfl, Backend.SolanaNode.agrees_of_balances faithful agrees asked⟩

/-- The node of a tier is there after any run of operations, and what it keeps still agrees. -/
theorem exists_backendOf_serve
    (opens : provider.opens tier = .ok (.solanaNode (.standard endpoint) .empty))
    (fresh : provider.backends = ⟨none, none⟩)
    (faithful : Backend.Faithful wallet provider.transport endpoint past)
    (log : Log)
    (operations : List Operation) :
    ∃ cache built,
      (provider.serve past log operations).provider.backendOf tier =
          .ok (.solanaNode (.standard endpoint) cache, built) ∧
        cache.Agrees wallet := by
  have maintains := maintains_isNodeAt opens faithful
  have keepsNone : provider.Keeps fun other backend =>
      other = tier → IsNodeAt endpoint wallet backend := by
    intro other backend kept
    rw [fresh] at kept
    cases other <;> cases kept
  have keeps := keepsNone.serve maintains log operations
  have alike := provider.bare_serve past log operations
  generalize (provider.serve past log operations).provider = later at keeps alike
  have stillOpens : later.opens tier = .ok (.solanaNode (.standard endpoint) .empty) :=
    (congrArg (fun bare => bare.opens tier) alike).trans opens
  cases found : later.backendOf tier with
  | error fault =>
      cases kept : later.backends.get tier with
      | some backend =>
          rw [backendOf, kept] at found
          cases found
      | none =>
          rw [backendOf_of_none kept, stillOpens] at found
          cases found
  | ok held =>
      have isNode := (keeps.backendOf ((maintains.congr alike).opened tier) found).1 rfl
      rcases isNode.exists_cache with ⟨cache, same, agrees⟩
      exact ⟨cache, held.2, by rw [← same], agrees⟩

/-! ## Balances of a known wallet -/

variable {network : Network} {address given : Json} {expected : Balances}

/-- A node that keeps nothing wrong answers with the wallet that the network knows. -/
theorem exists_run_balances_of_knows
    {built : Provider}
    {cache : Backend.MintCache}
    (solana : provider.chain = .ofId .solana)
    (rendering : provider.rendering = ⟨.solana, true⟩)
    (named : Tier.read given = .ok tier)
    (found : provider.backendOf tier = .ok (.solanaNode (.standard endpoint) cache, built))
    (agrees : cache.Agrees wallet)
    (normalized : wallet.balances = .ok expected)
    (knows : Backend.Knows network provider.transport (.standard endpoint) address wallet)
    (log : Log) :
    ∃ later grown,
      (provider.balances address given).run network log = (.ok (expected, later), grown) := by
  have family : provider.rendering.family = .solana := by
    rw [rendering]
  have converts : provider.rendering.convertUnits = true := by
    rw [rendering]
  have decimals : provider.chain.config.nativeDecimals = Wallet.nativeDecimals := by
    rw [solana]
    rfl
  rcases knows.exists_run_balances agrees family converts decimals normalized
      provider.chain.id tier log with
    ⟨payload, backend, grown, ended, rendered⟩
  have answered : (provider.withBackend tier fun backend =>
      backend.balances provider.transport provider.chain.id address tier).run network log =
        (.ok (.ok payload, built.keep tier backend), grown) :=
    run_withBackend_of_ok found ended
  have attempted : (provider.tryBalances address given).run network log =
      (.ok (.ok expected, built.keep tier backend), grown) := by
    rw [tryBalances, named]
    refine (run_bind_of_ok answered _).trans ?_
    rw [run_pure, Outcome.ok_bind, rendered]
  exact ⟨_, _, run_balances attempted⟩

/--
A provider of Solana answers a question about a wallet that the network knows with just this
wallet, also after any run of operations in which nothing else was told about its mints.
-/
theorem balances_wallet
    {registry : Registry}
    {services : List Service}
    (built : registry.build .solana services = .ok provider)
    (converts : registry.convertUnits = true)
    (named : Tier.read given = .ok tier)
    (opened : provider.baseUrl tier = .ok endpoint)
    (normalized : wallet.balances = .ok expected)
    (faithful : Backend.Faithful wallet provider.transport endpoint past)
    (knows : Backend.Knows network provider.transport (.standard endpoint) address wallet)
    (log : Log)
    (operations : List Operation) :
    ∃ later grown,
      ((provider.serve past log operations).provider.balances address given).run network
          (provider.serve past log operations).log =
        (.ok (expected, later), grown) := by
  rcases fields_of_build built with ⟨solana, rendering, fresh⟩
  rw [converts] at rendering
  have family : provider.chain.family = .solana := by
    rw [solana]
    rfl
  have opens := (isRouted_build built).opens_solana family opened
  rcases exists_backendOf_serve opens fresh faithful log operations with
    ⟨cache, kept, found, agrees⟩
  rcases fields_of_bare (provider.bare_serve past log operations) with
    ⟨sameChain, sameRendering, sameTransport⟩
  rw [← sameTransport] at knows
  exact exists_run_balances_of_knows (sameChain.trans solana) (sameRendering.trans rendering)
    named found agrees normalized knows _

/-! ## A wallet with all kinds of accounts -/

/-- A mint that has a metadata account. -/
def describedMint : Address :=
  ⟨List.replicate 32 7, rfl⟩

/-- A mint about which nothing is known. -/
def bareMint : Address :=
  ⟨List.replicate 32 9, rfl⟩

/-- A metadata account with a name, no symbol, and some padding. -/
def sampleRecord : StoredMetadata where
  updateAuthority := bareMint
  mint := describedMint
  name := ⟨['G', 'o', 'l', 'd'], 28, .of_any (by decide), by decide⟩
  symbol := ⟨[], 10, .of_any (by decide), by decide⟩
  link := ⟨['x'], 0, .of_any (by decide), by decide⟩
  sellerFee := 500
  feeFits := by decide
  creators := .absent
  primarySaleHappened := 1
  isMutable := 0

/-- Two accounts of one mint and one of another under the other program. -/
def sampleWallet : Wallet where
  lamports := 1500000000
  classic := [⟨describedMint, 250, 2⟩, ⟨describedMint, 1, 0⟩]
  extended := [⟨bareMint, 70, 1⟩]
  records := fun mint => if mint = describedMint then some sampleRecord else none
  derivable := by
    intro mint known
    by_cases described : mint = describedMint
    · rw [described]
      decide +kernel
    · rw [if_neg described] at known
      exact absurd rfl known
  nfts := [sampleRecord]

/-- The balances of the wallet. -/
def sampleBalances : Balances where
  native := "1.5"
  tokens :=
    [⟨describedMint.text, "2.5", ⟨"UNKNOWN", 2, "Gold"⟩⟩,
      ⟨describedMint.text, "1", ⟨"UNKNOWN", 0, "Gold"⟩⟩,
      ⟨bareMint.text, "7", ⟨"UNKNOWN", 1, "Unknown Token"⟩⟩]
  nfts := [⟨describedMint.text, "", "Unknown Collection", "Gold", "x"⟩]

/-- The entry of a token account. -/
def entryOf
    (held : HeldToken) :
    Json :=
  .object [("account", .object [("data", .object [("parsed", .object [("info", .object
    [("mint", .text held.mint.text),
      ("tokenAmount", .object
        [("amount", .text (Text.decimalText held.amount)),
          ("decimals", .int held.decimals)])])])])])]

/-- The account that holds the metadata account. -/
def recordAccount : Json :=
  .object [("data", .array [.text (Base64.encode (sampleRecord.encode ++ [])), .text "base64"])]

/-- An answer with a result. -/
def answer
    (result : Json) :
    Reply :=
  .value (.object [("jsonrpc", .text "2.0"), ("result", result)])

/-- A network that tells the calls for the wallet by the shape of their parameters. -/
def sampleNetwork : Network := fun _ call =>
  match call with
  | .rpc _ _ _ (.array [_]) =>
    answer (.object [("value", .int sampleWallet.lamports)])
  | .rpc _ _ _ (.array [_, .object [(_, .text program)], _]) =>
    if program = tokenProgram then
      answer (.object [("value", .array (sampleWallet.classic.map entryOf))])
    else
      answer (.object [("value", .array (sampleWallet.extended.map entryOf))])
  | .rpc _ _ _ (.array [.text account, .object [_]]) =>
    if describedMint.metadataAccount?.map Base58.encode = some account then
      answer (.object [("value", recordAccount)])
    else
      answer (.object [("value", .null)])
  | .rpc _ _ _ (.array [_, .object [_, _]]) =>
    answer (.array [.object [("account", recordAccount)]])
  | _ => .silent

theorem isTokenAccount_entryOf
    (held : HeldToken) :
    Backend.IsTokenAccount held (entryOf held) :=
  ⟨rfl, rfl, rfl⟩

theorem forall₂_entryOf
    (tokens : List HeldToken) :
    List.Forall₂ Backend.IsTokenAccount tokens (tokens.map entryOf) := by
  rw [List.forall₂_map_right_iff, List.forall₂_same]
  intro held _
  exact isTokenAccount_entryOf held

/-- The two mints have metadata accounts of their own. -/
theorem metadataAccount?_ne :
    bareMint.metadataAccount?.map Base58.encode ≠
      describedMint.metadataAccount?.map Base58.encode := by
  decide +kernel

theorem showsRecord_sample
    {held : HeldToken}
    (member : held ∈ sampleWallet.tokens)
    {account : Bytes}
    (derived : held.mint.metadataAccount? = some account) :
    Transport.standard.Answers sampleNetwork endpoint "getAccountInfo"
      (Backend.infoParams (Base58.encode account))
      (Backend.ShowsRecord (sampleWallet.record? held)) := by
  intro earlier
  by_cases described : held.mint = describedMint
  · have known : sampleWallet.record? held = some sampleRecord := if_pos described
    have asked : describedMint.metadataAccount?.map Base58.encode =
        some (Base58.encode account) := by
      rw [← described, derived]
      rfl
    rw [Backend.infoParams, sampleNetwork, if_pos asked, known]
    exact ⟨.object [("value", recordAccount)], rfl, recordAccount, rfl, [], _, rfl⟩
  · have unknown : sampleWallet.record? held = none := if_neg described
    have bare : held.mint = bareMint := by
      simp only [sampleWallet, Wallet.tokens, List.cons_append, List.nil_append, List.mem_cons,
        List.not_mem_nil, or_false] at member
      rcases member with rfl | rfl | rfl
      · exact absurd rfl described
      · exact absurd rfl described
      · rfl
    have asked : describedMint.metadataAccount?.map Base58.encode ≠
        some (Base58.encode account) := by
      have different := metadataAccount?_ne
      rw [← bare, derived] at different
      exact different.symm
    rw [Backend.infoParams, sampleNetwork, if_neg asked, unknown]
    exact ⟨.object [("value", .null)], rfl, .null, rfl, rfl⟩

theorem knows_sample
    (endpoint : String)
    (address : Json) :
    Backend.Knows sampleNetwork .standard (.standard endpoint) address sampleWallet := by
  constructor
  · intro earlier
    exact ⟨.object [("value", .int sampleWallet.lamports)], rfl, rfl⟩
  · intro earlier
    exact ⟨.object [("value", .array (sampleWallet.classic.map entryOf))], rfl, _, rfl,
      forall₂_entryOf _⟩
  · intro earlier
    exact ⟨.object [("value", .array (sampleWallet.extended.map entryOf))], rfl, _, rfl,
      forall₂_entryOf _⟩
  · intro held member account derived
    exact showsRecord_sample member derived
  · intro earlier
    exact ⟨.array [.object [("account", recordAccount)]], rfl, _, rfl,
      .cons ⟨recordAccount, rfl, [], _, rfl⟩ .nil⟩

/-- The provider of Solana over public nodes. -/
def solanaProvider : Provider :=
  .make 0 (.ofId .solana) ⟨[]⟩ ⟨.solana, true⟩ .standard true
    (Registry.candidate (.ofId .solana) .rpc) []

/-- The wallet is asked for twice, with other questions in between. -/
theorem balances_wallet_twice :
    (Registry.make ⟨[]⟩ true .standard .standard).build .solana [.rpc] = .ok solanaProvider ∧
      solanaProvider.baseUrl .mainnet = .ok "https://api.mainnet-beta.solana.com" ∧
        sampleWallet.balances = .ok sampleBalances ∧
          Backend.Knows sampleNetwork .standard (.standard "https://api.mainnet-beta.solana.com")
            (.text "wallet") sampleWallet ∧
            ∃ later grown,
              let run := solanaProvider.serve sampleNetwork .empty
                [.balances (.text "wallet") (.text "mainnet"), .gasPrice (.text "testnet")]
              (run.provider.balances (.text "wallet") (.text "mainnet")).run sampleNetwork
                  run.log =
                (.ok (sampleBalances, later), grown) := by
  have built :
      (Registry.make ⟨[]⟩ true .standard .standard).build .solana [.rpc] = .ok solanaProvider :=
    rfl
  have opened : solanaProvider.baseUrl .mainnet = .ok "https://api.mainnet-beta.solana.com" := rfl
  have fits : sampleWallet.FitsWords := ⟨by decide, by decide, by decide⟩
  have normalized : sampleWallet.balances = .ok sampleBalances := by
    rw [fits.balances_eq]
    rfl
  have knows := knows_sample "https://api.mainnet-beta.solana.com" (.text "wallet")
  exact ⟨built, opened, normalized, knows,
    balances_wallet built rfl rfl opened normalized knows.faithful knows .empty _⟩

end Holdings.Provider
