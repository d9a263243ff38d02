import Holdings.Proofs.Backend.Batch
import Holdings.Proofs.Backend.Serving
import Holdings.Proofs.Balances.Tokens

/-!
# Listed tokens

What is looked up about the tokens of a list comes back as one value a token, and is put back to
the tokens by position.  Entries that name no token are left out before anything is looked up, so
the positions are those of the entries that are kept.  The look-ups are made in this order, each
after the calls for those before it, and a look-up that fails leaves the others in their places.
-/

namespace Holdings

open Fetch Solana

/-! ## Look-ups at an indexer -/

namespace Evm.Alchemy

/-- The call for what an indexer tells about a contract. -/
def metadataCall
    (client : Alchemy)
    (contract : Json) :
    Call :=
  .rpc .client client.rpcUrl "alchemy_getTokenMetadata" (.array [contract])

/-- What a reply tells about a contract; without a result it tells nothing, which is no failure. -/
def receiveMetadata
    (reply : Reply) :
    Except Fault Json := do
  let result ← indexerResult "alchemy_getTokenMetadata" (← receive reply)
  return result.orEmpty

theorem run_tokenMetadata
    (client : Alchemy)
    (contract : Json)
    (network : Network)
    (log : Log) :
    (client.tokenMetadata contract).run network log =
      (receiveMetadata (network log.calls (client.metadataCall contract)),
        { log with calls := log.calls ++ [client.metadataCall contract] }) := by
  have steps : client.tokenMetadata contract =
      client.send "alchemy_getTokenMetadata" [contract] >>= fun envelope =>
        liftM ((indexerResult "alchemy_getTokenMetadata" envelope).map Json.orEmpty) := by
    rw [tokenMetadata, indexerCall, bind_assoc]
    apply bind_congr
    intro envelope
    cases indexerResult "alchemy_getTokenMetadata" envelope <;> rfl
  rw [steps, run_bind_liftM, run_send]
  rfl

theorem ne_null_of_receiveMetadata
    {reply : Reply}
    {told : Json}
    (received : receiveMetadata reply = .ok told) :
    told ≠ .null := by
  rcases Outcome.bind_eq_ok.1 received with ⟨envelope, -, read⟩
  rcases Outcome.bind_eq_ok.1 read with ⟨result, -, same⟩
  cases same
  intro isNull
  rw [Json.orEmpty, Json.orElse] at isNull
  split at isNull
  · next present =>
      rw [isNull] at present
      cases present
  · cases isNull

end Evm.Alchemy

namespace Backend

/-! ## Tokens of an indexer -/

/-- The token of an entry that is an object and names a contract. -/
def ListedToken.ofEntry?
    (entry : Json) :
    Option ListedToken :=
  ((entry.get? "contractAddress").filter Json.isPresent).map fun contract =>
    ⟨contract, entry.getD "tokenBalance"⟩

theorem ofEntry?_eq
    (entry : Json) :
    ListedToken.ofEntry? entry =
      if (entry.getD "contractAddress").isPresent then
        some ⟨entry.getD "contractAddress", entry.getD "tokenBalance"⟩
      else
        none := by
  have whole : entry.getD "contractAddress" = (entry.get? "contractAddress").getD .null := rfl
  rw [ListedToken.ofEntry?, whole]
  cases entry.get? "contractAddress" with
  | none =>
      rfl
  | some contract =>
      rw [Option.filter_some, Option.getD_some]
      split <;> rfl

/-- Of entries that can all be named in a report, those that name a contract are kept. -/
theorem listedTokens_eq
    {entries : List Json}
    (showable : ∀ entry ∈ entries, entry.isShowable = true) :
    listedTokens entries = .ok (entries.filterMap ListedToken.ofEntry?) := by
  induction entries with
  | nil =>
      rfl
  | cons entry rest induction =>
      have later := induction fun other member => showable other (List.mem_cons_of_mem _ member)
      rw [listedTokens, List.filterMap_cons, ofEntry?_eq]
      by_cases named : (entry.getD "contractAddress").isPresent = true
      · rw [if_pos named, if_pos named, later]
        rfl
      · rw [if_neg named, if_neg named, if_pos (showable entry List.mem_cons_self), later]

/-- The outcomes of the look-ups of tokens, each made after the calls for those before it. -/
def metadataOutcomes
    (client : Evm.Alchemy)
    (network : Network) :
    List Call → List ListedToken → List (Except Fault Json)
  | _, [] => []
  | before, token :: rest =>
    Evm.Alchemy.receiveMetadata (network before (client.metadataCall token.contract)) ::
      metadataOutcomes client network (before ++ [client.metadataCall token.contract]) rest

theorem length_metadataOutcomes
    (client : Evm.Alchemy)
    (network : Network)
    (before : List Call)
    (tokens : List ListedToken) :
    (metadataOutcomes client network before tokens).length = tokens.length := by
  induction tokens generalizing before with
  | nil =>
      rfl
  | cons token rest induction =>
      exact congrArg (· + 1) (induction _)

theorem getElem?_metadataOutcomes
    (client : Evm.Alchemy)
    (network : Network)
    (before : List Call)
    (tokens : List ListedToken)
    (position : Nat) :
    (metadataOutcomes client network before tokens)[position]? =
      tokens[position]?.map fun token =>
        Evm.Alchemy.receiveMetadata
          (network
            (before ++ (tokens.take position).map fun earlier =>
              client.metadataCall earlier.contract)
            (client.metadataCall token.contract)) := by
  induction tokens generalizing before position with
  | nil =>
      rfl
  | cons token rest induction =>
      cases position with
      | zero =>
          simp [metadataOutcomes]
      | succ position =>
          simp [metadataOutcomes, induction]

theorem run_attemptEach_tokenMetadata
    (client : Evm.Alchemy)
    (network : Network)
    (log : Log)
    (tokens : List ListedToken) :
    (attemptEach (fun token : ListedToken => client.tokenMetadata token.contract)
        tokens).run network log =
      (.ok (metadataOutcomes client network log.calls tokens),
        { log with
          calls := log.calls ++ tokens.map fun token => client.metadataCall token.contract }) := by
  induction tokens generalizing log with
  | nil =>
      exact congrArg (fun calls => (Except.ok [], { log with calls := calls }))
        (List.append_nil _).symm
  | cons token rest induction =>
      simp only [attemptEach, run_bind, run_attempt, client.run_tokenMetadata, induction, run_pure,
        metadataOutcomes, List.map_cons, List.append_assoc, List.singleton_append]

/-- A token of a payload is a listed one with what its own look-up came to. -/
structure ListedToken.IsTold
    (listed : ListedToken)
    (outcome : Except Fault Json)
    (token : IndexedToken) :
    Prop where
  contract : token.contract = listed.contract
  balance : token.balance = listed.balance
  metadata : ∀ told, outcome = .ok told → token.metadata = told
  missing : token.metadata = .null ↔ ∃ fault, outcome = .error fault

/--
The tokens of a payload are the listed ones, position by position.  Each comes with the reply to
its own call, which was made after the calls for the tokens before it.
-/
structure TellsTokens
    (client : Evm.Alchemy)
    (network : Network)
    (before : List Call)
    (listed : List ListedToken)
    (tokens : List IndexedToken) :
    Prop where
  length_eq : tokens.length = listed.length
  told : ∀ (position : Nat) (entry : ListedToken) (token : IndexedToken),
    listed[position]? = some entry →
      tokens[position]? = some token →
        entry.IsTold
          (Evm.Alchemy.receiveMetadata
            (network
              (before ++ (listed.take position).map fun earlier =>
                client.metadataCall earlier.contract)
              (client.metadataCall entry.contract)))
          token

theorem isTold_indexedToken
    (listed : ListedToken)
    (reply : Reply) :
    listed.IsTold (Evm.Alchemy.receiveMetadata reply)
      (indexedToken listed (Evm.Alchemy.receiveMetadata reply).toOption) := by
  constructor
  · rfl
  · rfl
  · intro told received
    rw [received]
    rfl
  · cases received : Evm.Alchemy.receiveMetadata reply with
    | error fault =>
        exact ⟨fun _ => ⟨fault, rfl⟩, fun _ => rfl⟩
    | ok told =>
        constructor
        · intro isNull
          exact absurd isNull (Evm.Alchemy.ne_null_of_receiveMetadata received)
        · rintro ⟨fault, refused⟩
          cases refused

theorem tellsTokens_zipWith
    (client : Evm.Alchemy)
    (network : Network)
    (before : List Call)
    (listed : List ListedToken) :
    TellsTokens client network before listed
      (listed.zipWith indexedToken
        ((metadataOutcomes client network before listed).map Except.toOption)) := by
  have whole (position : Nat) :
      (listed.zipWith indexedToken
          ((metadataOutcomes client network before listed).map Except.toOption))[position]? =
        listed[position]?.map fun entry =>
          indexedToken entry
            (Evm.Alchemy.receiveMetadata
              (network
                (before ++ (listed.take position).map fun earlier =>
                  client.metadataCall earlier.contract)
                (client.metadataCall entry.contract))).toOption := by
    rw [List.getElem?_zipWith, List.getElem?_map, getElem?_metadataOutcomes]
    cases listed[position]? <;> rfl
  constructor
  · rw [List.length_zipWith, List.length_map, length_metadataOutcomes, Nat.min_self]
  · intro position entry token there found
    rw [whole, there] at found
    cases found
    exact isTold_indexedToken entry _

/-- The payload of an indexer, when the tokens could be listed. -/
theorem run_indexerBalances
    {client : Evm.Alchemy}
    {address : Json}
    {network : Network}
    {log : Log}
    {entries : List Json}
    (chain : ChainId)
    (tier : Tier)
    (listed : ((client.tokenBalances address).run network
      ((client.balance address).run network log).2).1 = .ok (.array entries))
    (showable : ∀ entry ∈ entries, entry.isShowable = true) :
    ∃ native tokens nfts failed before events,
      (indexerBalances chain client address tier).run network log =
          (.ok (.indexed native tokens nfts failed),
            ⟨before ++ (entries.filterMap ListedToken.ofEntry?).map fun token =>
              client.metadataCall token.contract, events⟩) ∧
        TellsTokens client network before (entries.filterMap ListedToken.ofEntry?) tokens := by
  have present : listingEntries (some (.array entries)) = .ok entries := by
    cases entries <;> rfl
  rw [indexerBalances, run_bind, run_fetchSlots]
  dsimp only
  rw [listed]
  generalize (client.balance address).run network log = nativeRun
  generalize (client.tokenBalances address).run network nativeRun.2 = tokensRun
  generalize (client.nftsOf address).run network tokensRun.2 = nftsRun
  generalize Log.mk nftsRun.2.calls _ = later
  dsimp only [Except.toOption]
  rw [present, liftM_ok_bind, listedTokens_eq showable, liftM_ok_bind, fetchEach, bind_assoc,
    run_bind, run_attemptEach_tokenMetadata]
  dsimp only
  rw [run_bind, run_settleEach]
  dsimp only [run_pure]
  exact ⟨_, _, _, _, _, _, rfl, tellsTokens_zipWith client network later.calls _⟩

/-! ## Token accounts of Solana -/

/-- The entries that a token program lists; one that does not answer lists none. -/
inductive Lists : Except Fault Json → List Json → Prop where
  | answered
      {result listing : Json}
      {entries : List Json}
      (there : result.lookupOr "value" (.array []) = .ok listing)
      (each : listing.elements = .ok entries) :
      Lists (.ok result) entries
  | failed
      {fault : Fault} :
      Lists (.error fault) []

theorem lists_of_outcomeAccounts
    {outcome : Except Fault Json}
    {accounts : List SolanaNode.AccountEntry}
    (read : SolanaNode.outcomeAccounts outcome = .ok accounts) :
    ∃ entries, Lists outcome entries ∧ accounts = SolanaNode.readAccounts entries := by
  cases outcome with
  | error fault =>
      cases read
      exact ⟨[], .failed, rfl⟩
  | ok result =>
      rcases Outcome.bind_eq_ok.1 read with ⟨listing, there, read⟩
      rcases Outcome.bind_eq_ok.1 read with ⟨entries, each, same⟩
      cases same
      exact ⟨entries, .answered there each, rfl⟩

/-- What was listed for both programs was listed for one and then for the other. -/
theorem lists_of_joinPrograms
    {classic extended : Except Fault Json}
    {accounts : List SolanaNode.AccountEntry}
    (joined : SolanaNode.joinPrograms classic extended = .ok accounts) :
    ∃ first second,
      Lists classic first ∧ Lists extended second ∧
        accounts = SolanaNode.readAccounts first ++ SolanaNode.readAccounts second := by
  have both : (do
      let first ← SolanaNode.outcomeAccounts classic
      let second ← SolanaNode.outcomeAccounts extended
      return first ++ second) = .ok accounts := by
    cases classic with
    | ok result =>
        exact joined
    | error fault =>
        cases extended with
        | ok result =>
            exact joined
        | error other =>
            cases joined
  rcases Outcome.bind_eq_ok.1 both with ⟨classicAccounts, classicRead, both⟩
  rcases Outcome.bind_eq_ok.1 both with ⟨extendedAccounts, extendedRead, same⟩
  cases same
  rcases lists_of_outcomeAccounts classicRead with ⟨first, listsFirst, rfl⟩
  rcases lists_of_outcomeAccounts extendedRead with ⟨second, listsSecond, rfl⟩
  exact ⟨first, second, listsFirst, listsSecond, rfl⟩

/-- The call for the accounts of a wallet under a token program. -/
def SolanaNode.programRun
    (node : SolanaNode)
    (transport : Transport)
    (address : Json)
    (program : String)
    (network : Network)
    (log : Log) :
    Except Fault Json × Log :=
  (node.call transport "getTokenAccountsByOwner"
    (SolanaNode.accountParams address program)).run network log

/-- An account of a payload is a listed one with what its own look-up came to. -/
structure SolanaNode.AccountEntry.IsTold
    (listed : SolanaNode.AccountEntry)
    (lookup : Lookup)
    (account : TokenAccount) :
    Prop where
  looked : lookup.mint = listed.mint
  mint : account.mint = listed.mint
  amount : account.amount = listed.amount
  decimals : account.decimals = listed.decimals
  metadata : ∀ found, lookup.outcome = .ok found → account.metadata = found.toJson
  missing : ∀ fault, lookup.outcome = .error fault → account.metadata = .null

/--
The accounts of a payload are the listed ones, position by position.  Each comes with its own
look-up, which was made after the calls of the look-ups before it.
-/
structure TellsAccounts
    (node : SolanaNode)
    (transport : Transport)
    (network : Network)
    (cache : MintCache)
    (before : List Call)
    (listed : List SolanaNode.AccountEntry)
    (lookups : List Lookup)
    (accounts : List TokenAccount) :
    Prop where
  length_lookups : lookups.length = listed.length
  length_accounts : accounts.length = listed.length
  told : ∀ (position : Nat) (entry : SolanaNode.AccountEntry) (lookup : Lookup)
    (account : TokenAccount),
    listed[position]? = some entry →
      lookups[position]? = some lookup →
        accounts[position]? = some account →
          Looks node transport network cache lookup ∧
            lookup.before = before ++ (lookups.take position).flatMap (·.calls) ∧
              entry.IsTold lookup account

theorem tellsAccounts_zipWith
    (node : SolanaNode)
    (transport : Transport)
    (network : Network)
    (cache : MintCache)
    (log : Log)
    (listed : List SolanaNode.AccountEntry) :
    TellsAccounts node transport network cache log.calls listed
      (node.lookupEach transport network cache log (listed.map (·.mint)))
      (listed.zipWith SolanaNode.tokenAccount
        (lookupValues (node.lookupEach transport network cache log (listed.map (·.mint))))) := by
  have mints := node.map_mint_lookupEach transport network cache log (listed.map (·.mint))
  have looks := node.looks_lookupEach transport network cache log (listed.map (·.mint))
  generalize made : node.lookupEach transport network cache log (listed.map (·.mint)) = lookups
    at mints looks ⊢
  have sameLength : lookups.length = listed.length := by
    simpa using congrArg List.length mints
  refine ⟨sameLength, ?_, ?_⟩
  · rw [List.length_zipWith, lookupValues, List.length_map, sameLength, Nat.min_self]
  · intro position entry lookup account there lookedUp found
    refine ⟨looks lookup (List.mem_of_getElem? lookedUp), ?_, ?_⟩
    · rcases List.getElem?_eq_some_iff.1 lookedUp with ⟨inLookups, same⟩
      apply node.before_lookupEach transport network cache
      rw [made, ← same, ← List.drop_eq_getElem_cons inLookups, List.take_append_drop]
    · have sameMint : lookup.mint = entry.mint := by
        have pointwise := congrArg (·[position]?) mints
        simpa [there, lookedUp] using pointwise
      rw [List.getElem?_zipWith, lookupValues, List.getElem?_map, there, lookedUp] at found
      cases found
      refine ⟨sameMint, rfl, rfl, rfl, ?_, ?_⟩
      · intro ended succeeded
        dsimp only [SolanaNode.tokenAccount]
        rw [succeeded]
        rfl
      · intro fault failed
        dsimp only [SolanaNode.tokenAccount]
        rw [failed]
        rfl

/-- The payload of a node of Solana, when the accounts of a program could be listed. -/
theorem run_balances_solana
    {node : SolanaNode}
    {transport : Transport}
    {cache : MintCache}
    {address : Json}
    {network : Network}
    {log : Log}
    {listed : List SolanaNode.AccountEntry}
    (chain : ChainId)
    (tier : Tier)
    (accounted : ((node.tokenAccounts transport address).run network
      ((node.nativeBalance transport address).run network log).2).1 = .ok listed) :
    ∃ native accounts nfts failed kept before lookups events,
      (node.balances transport cache chain address tier).run network log =
          (.ok (.solana native accounts nfts failed, kept),
            ⟨before ++ lookups.flatMap (·.calls), events⟩) ∧
        TellsAccounts node transport network cache before listed lookups accounts := by
  rw [SolanaNode.balances, run_bind, run_fetchSlots]
  dsimp only
  rw [accounted]
  generalize (node.nativeBalance transport address).run network log = nativeRun
  generalize (node.tokenAccounts transport address).run network nativeRun.2 = tokensRun
  generalize (node.nfts transport address).run network tokensRun.2 = nftsRun
  generalize Log.mk nftsRun.2.calls _ = later
  dsimp only [Except.toOption, Option.getD_some]
  rcases node.run_fetchEach_lookupMint transport network cache chain tier later listed with
    ⟨events, fetched⟩
  rw [run_bind, fetched]
  dsimp only [run_pure]
  exact ⟨_, _, _, _, _, _, _, _, rfl,
    tellsAccounts_zipWith node transport network cache later listed⟩

/-- Accounts that could be listed are those of the classic program and then of the extended one. -/
theorem lists_of_tokenAccounts
    {node : SolanaNode}
    {transport : Transport}
    {address : Json}
    {network : Network}
    {log : Log}
    {listed : List SolanaNode.AccountEntry}
    (accounted : ((node.tokenAccounts transport address).run network log).1 = .ok listed) :
    ∃ first second,
      Lists (node.programRun transport address tokenProgram network log).1 first ∧
        Lists (node.programRun transport address extendedTokenProgram network
            (node.programRun transport address tokenProgram network log).2).1 second ∧
          listed = SolanaNode.readAccounts first ++ SolanaNode.readAccounts second := by
  apply lists_of_joinPrograms
  rw [SolanaNode.tokenAccounts, run_bind, run_attempt] at accounted
  exact accounted

/-! ## From the lists to the balances -/

/--
No token of a list is lost, doubled, moved or given what belongs to another one, neither in the
payload of a question that is asked with a network nor in the balances of any payload.
-/
structure KeepsTokens
    (chain : ChainId)
    (address : Json)
    (tier : Tier)
    (network : Network)
    (log : Log) :
    Prop where
  indexed : ∀ (client : Evm.Alchemy) (entries : List Json),
    ((client.tokenBalances address).run network
        ((client.balance address).run network log).2).1 = .ok (.array entries) →
      (∀ entry ∈ entries, entry.isShowable = true) →
        ∃ native tokens nfts failed before events,
          (indexerBalances chain client address tier).run network log =
              (.ok (.indexed native tokens nfts failed),
                ⟨before ++ (entries.filterMap ListedToken.ofEntry?).map fun token =>
                  client.metadataCall token.contract, events⟩) ∧
            TellsTokens client network before (entries.filterMap ListedToken.ofEntry?) tokens
  /-- The accounts of the classic program come before those of the extended one. -/
  listed : ∀ (node : SolanaNode) (transport : Transport) (before : Log)
      (accounts : List SolanaNode.AccountEntry),
    ((node.tokenAccounts transport address).run network before).1 = .ok accounts →
      ∃ first second,
        Lists (node.programRun transport address tokenProgram network before).1 first ∧
          Lists (node.programRun transport address extendedTokenProgram network
              (node.programRun transport address tokenProgram network before).2).1 second ∧
            accounts = SolanaNode.readAccounts first ++ SolanaNode.readAccounts second
  read : ∀ entry account, SolanaNode.readAccount entry = .ok account ↔ TellsAccount entry account
  looked : ∀ (node : SolanaNode) (transport : Transport) (cache : MintCache)
      (accounts : List SolanaNode.AccountEntry),
    ((node.tokenAccounts transport address).run network
        ((node.nativeBalance transport address).run network log).2).1 = .ok accounts →
      ∃ native told nfts failed kept before lookups events,
        (node.balances transport cache chain address tier).run network log =
            (.ok (.solana native told nfts failed, kept),
              ⟨before ++ lookups.flatMap (·.calls), events⟩) ∧
          TellsAccounts node transport network cache before accounts lookups told
  rendered : ∀ (rendering : Rendering) (payload : Payload) (config : ChainConfig)
      (balances : Balances),
    rendering.balances payload config = .ok balances →
      List.Forall₂ rendering.Renders payload.tokens balances.tokens

/-- Tokens keep their places from the lists of the network to the balances of the wallet. -/
theorem keepsTokens
    (chain : ChainId)
    (address : Json)
    (tier : Tier)
    (network : Network)
    (log : Log) :
    KeepsTokens chain address tier network log where
  indexed _ _ listed showable := run_indexerBalances chain tier listed showable
  listed _ _ _ _ accounted := lists_of_tokenAccounts accounted
  read _ _ := readAccount_eq_ok_iff
  looked _ _ _ _ accounted := run_balances_solana chain tier accounted
  rendered _ _ _ _ rendered := Rendering.forall₂_renders rendered

/-- A contract that is listed twice, with an entry between that names none. -/
def repeatedEntries : List Json :=
  [.object [("contractAddress", .text "0xA"), ("tokenBalance", .text "0x1")],
    .object [("tokenBalance", .text "0x5")],
    .object [("contractAddress", .text "0xA"), ("tokenBalance", .text "0x2")]]

/-- An account of seven units of a mint with two decimals. -/
def sevenUnits : Json :=
  .object [("account", .object [("data", .object [("parsed", .object [("info",
    .object [("mint", .text "M"),
      ("tokenAmount", .object [("amount", .text "7"), ("decimals", .int 2)])])])])])]

/-- A network that lists these for every wallet, and tells about each contract once only. -/
def forgetfulNetwork : Network := fun earlier call =>
  match call with
  | .page _ _ => .silent
  | .rpc _ _ method _ =>
    if method = "alchemy_getTokenBalances" then
      .value (.object [("result", .object [("tokenBalances", .array repeatedEntries)])])
    else if method = "getTokenAccountsByOwner" then
      .value (.object [("result", .object [("value", .array [sevenUnits, .null])])])
    else if method = "alchemy_getTokenMetadata" ∧ !earlier.contains call then
      .value (.object [("result", .object [("decimals", .int 6)])])
    else
      .silent

/-- What is listed twice stays twice, and what names nothing is left out, in both families. -/
theorem keepsTokens_forgetful :
    (∃ native tokens nfts failed before events,
      (indexerBalances .ethereum ⟨"eth-mainnet", "key"⟩ (.text "0x1") .mainnet).run
          forgetfulNetwork .empty =
        (.ok (.indexed native tokens nfts failed),
          ⟨before ++ [Evm.Alchemy.metadataCall ⟨"eth-mainnet", "key"⟩ (.text "0xA"),
            Evm.Alchemy.metadataCall ⟨"eth-mainnet", "key"⟩ (.text "0xA")], events⟩) ∧
        TellsTokens ⟨"eth-mainnet", "key"⟩ forgetfulNetwork before
          [⟨.text "0xA", .text "0x1"⟩, ⟨.text "0xA", .text "0x2"⟩] tokens) ∧
      ∃ native accounts nfts failed kept before lookups events,
        ((SolanaNode.standard "https://node").balances .standard .empty .solana (.text "B")
            .mainnet).run forgetfulNetwork .empty =
          (.ok (.solana native accounts nfts failed, kept),
            ⟨before ++ lookups.flatMap (·.calls), events⟩) ∧
          TellsAccounts (.standard "https://node") .standard forgetfulNetwork .empty before
            [⟨.text "M", .text "7", .int 2⟩, ⟨.text "M", .text "7", .int 2⟩] lookups accounts :=
  ⟨(keepsTokens .ethereum (.text "0x1") .mainnet forgetfulNetwork .empty).indexed
      ⟨"eth-mainnet", "key"⟩ repeatedEntries rfl (by decide),
    (keepsTokens .solana (.text "B") .mainnet forgetfulNetwork .empty).looked
      (.standard "https://node") .standard .empty _ rfl⟩

end Backend

end Holdings
