import Holdings.Proofs.Backend.Batch

/-!
# What a node remembers

A node of Solana is asked for balances and for the metadata of single mints, in any
order and whatever the network answers.  What is kept of a mint is always the record
that was found last, and nothing but a look-up that found one changes it.  So the
network is asked about a mint only as long as no question found a record of it, and
every later question is answered with the record that was found last.
-/

namespace Holdings

/-- A value that is a certain text. -/
def Json.spells
    (written : String) :
    Json → Bool
  | .text given => given = written
  | _ => false

theorem Json.spells_iff
    {written : String}
    {value : Json} :
    value.spells written ↔ value = .text written := by
  cases value <;> simp [spells]

/-- A call for an account. -/
def Call.IsInfo : Call → Prop
  | .rpc _ _ method _ => method = "getAccountInfo"
  | .page _ _ => False

theorem Call.IsRpc.not_isInfo
    {channel : Channel}
    {url method : String}
    {call : Call}
    (isRpc : call.IsRpc channel url method)
    (different : method ≠ "getAccountInfo") :
    ¬ call.IsInfo := by
  cases call with
  | rpc usedChannel usedUrl usedMethod params =>
      rcases isRpc with ⟨-, -, rfl⟩
      exact different
  | page usedUrl query =>
      exact isRpc.elim

namespace Backend

open Fetch Solana

/-! ## Questions -/

/-- The metadata of a mint, which is kept if it was found. -/
def SolanaNode.tokenMetadata
    (node : SolanaNode)
    (transport : Transport)
    (cache : MintCache)
    (mint : Json) :
    Fetch (MintLookup × MintCache) := do
  let lookup ← node.lookupMint transport cache mint
  return (lookup, lookup.store cache)

/-- A node that is asked about one chain, with all that stays the same meanwhile. -/
structure NodeSession where
  node : SolanaNode
  transport : Transport
  chain : ChainId
  network : Network

/-- The records that are kept, and all that was asked so far. -/
structure Memory where
  cache : MintCache
  log : Log

/-- A question that looks up mints. -/
inductive MintQuery where
  | balances (address : Json) (tier : Tier)
  | metadata (mint : Json)

/-- The answer to such a question. -/
inductive MintAnswer where
  | balances (outcome : Except Fault Payload)
  | metadata (outcome : Except Fault MintLookup)

/-- What a run came to, and what is remembered then; a run that failed leaves what was kept. -/
def Memory.conclude
    {α : Type}
    (now : Memory) :
    Except Fault (α × MintCache) × Log → Except Fault α × Memory
  | (.ok (value, kept), later) => (.ok value, ⟨kept, later⟩)
  | (.error fault, later) => (.error fault, ⟨now.cache, later⟩)

namespace NodeSession

/-- Answers a question. -/
def ask
    (session : NodeSession)
    (now : Memory) :
    MintQuery → MintAnswer × Memory
  | .balances address tier =>
    let (outcome, later) := now.conclude <|
      (session.node.balances session.transport now.cache session.chain address tier).run
        session.network now.log
    (.balances outcome, later)
  | .metadata mint =>
    let (outcome, later) := now.conclude <|
      (session.node.tokenMetadata session.transport now.cache mint).run session.network now.log
    (.metadata outcome, later)

/-- What is remembered after some questions. -/
def after
    (session : NodeSession)
    (now : Memory)
    (queries : List MintQuery) :
    Memory :=
  queries.foldl (fun current query => (session.ask current query).2) now

/-! ## The look-ups of a question -/

/-- The parts of the balances of a wallet, before any mint is looked up. -/
def parts
    (session : NodeSession)
    (log : Log)
    (address : Json)
    (tier : Tier) :
    Except Fault (Slots String (List SolanaNode.AccountEntry) (List Json)) × Log :=
  (fetchSlots session.chain tier
    (session.node.nativeBalance session.transport address)
    (session.node.tokenAccounts session.transport address)
    (session.node.nfts session.transport address)).run session.network log

/-- The token accounts that are listed for a wallet. -/
def accounts
    (session : NodeSession)
    (log : Log)
    (address : Json)
    (tier : Tier) :
    List SolanaNode.AccountEntry :=
  ((session.parts log address tier).1.toOption.bind (·.tokens)).getD []

/-- The look-ups that are made for a question, in order. -/
def lookups
    (session : NodeSession)
    (now : Memory) :
    MintQuery → List Lookup
  | .balances address tier =>
    session.node.lookupEach session.transport session.network now.cache
      (session.parts now.log address tier).2
      ((session.accounts now.log address tier).map (·.mint))
  | .metadata mint =>
    [session.node.lookup session.transport session.network now.cache now.log mint]

/-- The look-ups that are made for some questions, in order. -/
def history
    (session : NodeSession)
    (now : Memory) :
    List MintQuery → List Lookup
  | [] => []
  | query :: rest => session.lookups now query ++ session.history (session.ask now query).2 rest

variable (session : NodeSession) (now : Memory)

theorem looks_lookups
    (query : MintQuery) :
    ∀ lookup ∈ session.lookups now query,
      Looks session.node session.transport session.network now.cache lookup := by
  cases query with
  | balances address tier =>
      exact session.node.looks_lookupEach session.transport session.network now.cache _ _
  | metadata mint =>
      intro lookup member
      rw [List.mem_singleton.1 member]
      exact session.node.looks_lookup session.transport session.network now.cache now.log mint

theorem map_mint_lookups
    (address : Json)
    (tier : Tier) :
    (session.lookups now (.balances address tier)).map (·.mint) =
      (session.accounts now.log address tier).map (·.mint) :=
  session.node.map_mint_lookupEach session.transport session.network now.cache _ _

/-! ## What a question does -/

/-- Before the look-ups, no account is asked for. -/
theorem exists_calls_parts
    (log : Log)
    (address : Json)
    (tier : Tier) :
    ∃ others,
      (session.parts log address tier).2.calls = log.calls ++ others ∧
        ∀ call ∈ others, ¬ call.IsInfo := by
  have within : (fetchSlots session.chain tier
      (session.node.nativeBalance session.transport address)
      (session.node.tokenAccounts session.transport address)
      (session.node.nfts session.transport address)).Within
        (fun call => ¬ call.IsInfo) (IsPartWarning session.chain tier) := by
    apply within_fetchSlots
    · exact (session.node.within_nativeBalance session.transport address).widen
        fun call isRpc => isRpc.not_isInfo (by decide)
    · exact (session.node.within_tokenAccounts session.transport address).widen
        fun call isRpc => isRpc.not_isInfo (by decide)
    · exact (session.node.within_nfts session.transport address).widen
        fun call isRpc => isRpc.not_isInfo (by decide)
  rcases within.exists_added session.network log with ⟨others, events, grown, allowed, -⟩
  exact ⟨others, congrArg Log.calls grown, allowed⟩

/-- Balances carry the outcomes of their look-ups, each in the place of its account. -/
theorem ask_balances
    (address : Json)
    (tier : Tier) :
    ∃ native nfts failed events,
      session.ask now (.balances address tier) =
        (.balances (.ok (.solana native
            ((session.accounts now.log address tier).zipWith SolanaNode.tokenAccount
              (lookupValues (session.lookups now (.balances address tier)))) nfts failed)),
          ⟨SolanaNode.storeAll now.cache
              (lookupValues (session.lookups now (.balances address tier))),
            ⟨(session.parts now.log address tier).2.calls ++
              (session.lookups now (.balances address tier)).flatMap (·.calls), events⟩⟩) := by
  have ended : ∃ slots later, session.parts now.log address tier = (.ok slots, later) :=
    ⟨_, _, run_fetchSlots session.chain tier _ _ _ session.network now.log⟩
  rcases ended with ⟨slots, later, fetched⟩
  have listed : session.accounts now.log address tier = slots.tokens.getD [] := by
    rw [accounts, fetched]
    rfl
  have looked := session.node.run_fetchEach_lookupMint session.transport session.network now.cache
    session.chain tier later (slots.tokens.getD [])
  rcases looked with ⟨events, looked⟩
  rw [parts] at fetched
  refine ⟨Json.ofText? slots.native, slots.nfts.getD [],
    withMetadataPart slots.failed (lookupValues (session.lookups now (.balances address tier))),
    events, ?_⟩
  rw [lookups, listed, parts, fetched]
  simp only [ask, SolanaNode.balances, run_bind, fetched, looked, run_pure]
  rfl

/-- The metadata of a mint is the outcome of its look-up. -/
theorem ask_metadata
    (mint : Json) :
    ∃ lookup,
      session.lookups now (.metadata mint) = [lookup] ∧ lookup.mint = mint ∧
        lookup.before = now.log.calls ∧
          session.ask now (.metadata mint) =
            (.metadata lookup.outcome,
              ⟨SolanaNode.storeAll now.cache (lookupValues [lookup]),
                { now.log with calls := now.log.calls ++ lookup.calls }⟩) := by
  refine ⟨_, rfl, rfl, rfl, ?_⟩
  rw [ask, SolanaNode.tokenMetadata, run_bind, session.node.run_lookupMint session.transport
    session.network, lookupValues, List.map_singleton]
  cases (session.node.lookup session.transport session.network now.cache now.log mint).outcome <;>
    rfl

/-- What was found is kept when all look-ups of a question have ended. -/
theorem cache_ask
    (query : MintQuery) :
    (session.ask now query).2.cache =
      SolanaNode.storeAll now.cache (lookupValues (session.lookups now query)) := by
  cases query with
  | balances address tier =>
      rcases session.ask_balances now address tier with ⟨native, nfts, failed, events, asked⟩
      rw [asked]
  | metadata mint =>
      rcases session.ask_metadata now mint with ⟨lookup, looked, -, -, asked⟩
      rw [asked, looked]

/-- Every call for an account is that of a look-up, which is made after those before it. -/
theorem exists_calls_ask
    (query : MintQuery) :
    ∃ others,
      (session.ask now query).2.log.calls =
          now.log.calls ++ others ++ (session.lookups now query).flatMap (·.calls) ∧
        (∀ call ∈ others, ¬ call.IsInfo) ∧
          ∀ first lookup last, session.lookups now query = first ++ lookup :: last →
            lookup.before = now.log.calls ++ others ++ first.flatMap (·.calls) := by
  cases query with
  | balances address tier =>
      rcases session.ask_balances now address tier with ⟨native, nfts, failed, events, asked⟩
      rcases session.exists_calls_parts now.log address tier with ⟨others, grown, noInfo⟩
      refine ⟨others, ?_, noInfo, ?_⟩
      · rw [asked, grown]
      · intro first lookup last split
        rw [← grown]
        exact session.node.before_lookupEach session.transport session.network now.cache split
  | metadata mint =>
      rcases session.ask_metadata now mint with ⟨lookup, looked, -, before, asked⟩
      refine ⟨[], ?_, fun call member => absurd member List.not_mem_nil, ?_⟩
      · rw [asked, looked, List.append_nil, List.flatMap_singleton]
      · intro first other last split
        rw [looked] at split
        cases first with
        | nil =>
            cases split
            simpa using before
        | cons head between =>
            cases between <;> cases split

/-! ## What is kept -/

/-- A question changes what is kept of a mint to the last record that its look-ups found. -/
theorem get?_ask
    (query : MintQuery)
    (key : String) :
    (session.ask now query).2.cache.get? key =
      (lastFound? (session.lookups now query) key).or (now.cache.get? key) := by
  rw [cache_ask, get?_storeAll]

/-- So what is kept of a mint is the last record of it that was found at all. -/
theorem get?_after
    (queries : List MintQuery)
    (key : String) :
    (session.after now queries).cache.get? key =
      (lastFound? (session.history now queries) key).or (now.cache.get? key) := by
  induction queries generalizing now with
  | nil =>
      rfl
  | cons query rest induction =>
      rw [history, lastFound?_append, Option.or_assoc, ← get?_ask]
      exact induction _

/-- A mint that no record is kept of, and that has an account, is asked for in each place. -/
theorem calls_of_missing
    {mint account : String}
    (missing : now.cache.get? mint = none)
    (derived : metadataAddress mint = .ok account)
    (address : Json)
    (tier : Tier) :
    ((session.lookups now (.balances address tier)).filter (·.mint.spells mint)).flatMap
        (·.calls) =
      List.replicate ((session.accounts now.log address tier).countP (·.mint.spells mint))
        (infoCall session.transport session.node.endpoint account) := by
  have count : (session.accounts now.log address tier).countP (·.mint.spells mint) =
      ((session.lookups now (.balances address tier)).filter (·.mint.spells mint)).length := by
    have same := congrArg (List.countP (Json.spells mint))
      (session.map_mint_lookups now address tier)
    rw [List.countP_map, List.countP_map] at same
    exact same.symm.trans List.countP_eq_length_filter
  have each : ∀ lookup ∈
      (session.lookups now (.balances address tier)).filter (·.mint.spells mint),
        lookup.calls = [infoCall session.transport session.node.endpoint account] := by
    intro lookup member
    rcases List.mem_filter.1 member with ⟨made, spells⟩
    exact ((session.looks_lookups now _ lookup made).of_account
      (Json.spells_iff.1 spells) missing derived).1
  rw [count, List.flatMap_congr each, ← List.map_eq_flatMap, List.map_const']

/-! ## Every run -/

/-- How a node answers the next question, after it made some look-ups. -/
structure Remembers
    (session : NodeSession)
    (past : List Lookup)
    (now : Memory) :
    Prop where
  /-- Balances look up the mint of each account, and carry each outcome in its place. -/
  balances : ∀ address tier,
    (session.lookups now (.balances address tier)).map (·.mint) =
        (session.accounts now.log address tier).map (·.mint) ∧
      ∃ native nfts failed,
        (session.ask now (.balances address tier)).1 =
          .balances (.ok (.solana native
            ((session.accounts now.log address tier).zipWith SolanaNode.tokenAccount
              (lookupValues (session.lookups now (.balances address tier)))) nfts failed))
  metadata : ∀ mint, ∃ lookup,
    session.lookups now (.metadata mint) = [lookup] ∧ lookup.mint = mint ∧
      (session.ask now (.metadata mint)).1 = .metadata lookup.outcome
  /-- All look-ups of a question see what was kept before it. -/
  looks : ∀ query, ∀ lookup ∈ session.lookups now query,
    Looks session.node session.transport session.network now.cache lookup
  /-- Accounts are asked for by look-ups only, each after those before it. -/
  calls : ∀ query, ∃ others,
    (session.ask now query).2.log.calls =
        now.log.calls ++ others ++ (session.lookups now query).flatMap (·.calls) ∧
      (∀ call ∈ others, ¬ call.IsInfo) ∧
        ∀ first lookup last, session.lookups now query = first ++ lookup :: last →
          lookup.before = now.log.calls ++ others ++ first.flatMap (·.calls)
  /-- The network is asked about a mint only while no question has found a record of it. -/
  askedUntilFound : ∀ query, ∀ lookup ∈ session.lookups now query,
    lookup.calls ≠ [] → ∀ key, lookup.mint.print = .ok key →
      ∀ earlier ∈ past, earlier.found? key = none
  /-- From then on, the record that was found last is the answer. -/
  recalled : ∀ key record, lastFound? past key = some record →
    ∀ query, ∀ lookup ∈ session.lookups now query, lookup.mint.print = .ok key →
      lookup.calls = [] ∧ lookup.outcome = .ok (.kept record)
  /-- What is found is the metadata that the network tells about the account of the mint. -/
  found : ∀ query, ∀ lookup ∈ session.lookups now query,
    ∀ key record, lookup.found? key = some record →
      lookup.mint = .text key ∧ ∃ account metadata,
        metadataAddress key = .ok account ∧
          receiveInfo session.transport
              (session.network lookup.before
                (infoCall session.transport session.node.endpoint account)) =
            .ok (some metadata) ∧
          record = .ofMetadata metadata
  /-- What is kept of a mint stays as it is, unless a look-up found another record of it. -/
  stored : ∀ query key,
    (session.ask now query).2.cache.get? key =
      (lastFound? (session.lookups now query) key).or (now.cache.get? key)
  unstored : ∀ query,
    (∀ lookup ∈ session.lookups now query, ∀ key, lookup.found? key = none) →
    (session.ask now query).2.cache = now.cache
  /-- A mint that is not kept is asked for in each place, which has an outcome of its own. -/
  askedEach : ∀ address tier mint account,
    now.cache.get? mint = none → metadataAddress mint = .ok account →
    ((session.lookups now (.balances address tier)).filter (·.mint.spells mint)).flatMap
          (·.calls) =
        List.replicate ((session.accounts now.log address tier).countP (·.mint.spells mint))
          (infoCall session.transport session.node.endpoint account) ∧
      ∀ lookup ∈ session.lookups now (.balances address tier), lookup.mint = .text mint →
        lookup.outcome = (receiveInfo session.transport
          (session.network lookup.before
            (infoCall session.transport session.node.endpoint account))).map
              (MintLookup.ofRead mint)

/-- So every node answers, whatever was kept at the start and asked since. -/
theorem remembers_after
    (session : NodeSession)
    (start : Memory)
    (queries : List MintQuery) :
    session.Remembers (session.history start queries) (session.after start queries) := by
  have law := session.get?_after start queries
  generalize session.history start queries = past at law ⊢
  generalize session.after start queries = now at law ⊢
  constructor
  case balances =>
    intro address tier
    rcases session.ask_balances now address tier with ⟨native, nfts, failed, events, asked⟩
    rw [asked]
    exact ⟨session.map_mint_lookups now address tier, native, nfts, failed, rfl⟩
  case metadata =>
    intro mint
    rcases session.ask_metadata now mint with ⟨lookup, looked, same, -, asked⟩
    rw [asked]
    exact ⟨lookup, looked, same, rfl⟩
  case looks =>
    exact session.looks_lookups now
  case calls =>
    exact session.exists_calls_ask now
  case askedUntilFound =>
    intro query lookup member called key printed
    have missing := (session.looks_lookups now query lookup member).missing_of_calls called printed
    rw [law, Option.or_eq_none_iff] at missing
    exact lastFound?_eq_none.1 missing.1
  case recalled =>
    intro key record last query lookup member printed
    refine (session.looks_lookups now query lookup member).of_kept printed ?_
    rw [law, last]
    rfl
  case found =>
    intro query lookup member key record found
    rcases (session.looks_lookups now query lookup member).of_found found with
      ⟨named, -, shown⟩
    exact ⟨named, shown⟩
  case stored =>
    exact session.get?_ask now
  case unstored =>
    intro query unfound
    rw [cache_ask]
    exact storeAll_of_unfound unfound now.cache
  case askedEach =>
    intro address tier mint account missing derived
    refine ⟨session.calls_of_missing now missing derived address tier, ?_⟩
    intro lookup member named
    exact ((session.looks_lookups now _ lookup member).of_account named missing derived).2

end NodeSession

end Backend

end Holdings
