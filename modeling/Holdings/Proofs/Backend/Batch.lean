import Holdings.Proofs.Backend.Lookups

/-!
# Batches of look-ups

All look-ups of one question see the records that were kept before it; what they find
is kept when all of them have ended.  So each one goes its own way: to the record that
was kept, to no account at all, or to the reply of the network about the account of its
mint.  Of a mint that several of them find, the record that comes last is kept.
-/

namespace Holdings.Backend

open Fetch Solana

/-! ## Single look-ups -/

/-- A look-up that was made: the calls before it, those that were made for it, and its end. -/
structure Lookup where
  mint : Json
  before : List Call
  calls : List Call
  outcome : Except Fault MintLookup

/-- The record of a mint that a look-up found on the network. -/
def Lookup.found?
    (lookup : Lookup)
    (key : String) :
    Option MintRecord :=
  match lookup.outcome with
  | .ok (.found mint record) => if mint = key then some record else none
  | _ => none

/-- The ways in which a look-up ends, with the calls that are made for it. -/
inductive Looks
    (node : SolanaNode)
    (transport : Transport)
    (network : Network)
    (cache : MintCache) :
    Lookup → Prop where
  /-- The mint cannot be printed. -/
  | unprintable
      {mint : Json}
      {before : List Call}
      {fault : Fault}
      (unprintable : mint.print = .error fault) :
      Looks node transport network cache ⟨mint, before, [], .error fault⟩
  /-- A record was kept before. -/
  | kept
      {mint : Json}
      {before : List Call}
      {key : String}
      {record : MintRecord}
      (printed : mint.print = .ok key)
      (kept : cache.get? key = some record) :
      Looks node transport network cache ⟨mint, before, [], .ok (.kept record)⟩
  /-- The mint can have no metadata account. -/
  | nowhere
      {mint : Json}
      {before : List Call}
      {key : String}
      {fault : Fault}
      (printed : mint.print = .ok key)
      (missing : cache.get? key = none)
      (underivable : metadataAddressOf mint = .error fault) :
      Looks node transport network cache ⟨mint, before, [], .error fault⟩
  /-- The network is asked about the metadata account. -/
  | asked
      {mint account : String}
      {before : List Call}
      (missing : cache.get? mint = none)
      (derived : metadataAddress mint = .ok account) :
      Looks node transport network cache
        ⟨.text mint, before, [infoCall transport node.endpoint account],
          (receiveInfo transport
            (network before (infoCall transport node.endpoint account))).map
              (MintLookup.ofRead mint)⟩

/-- The values of look-ups; one that failed has none. -/
def lookupValues
    (lookups : List Lookup) :
    List (Option MintLookup) :=
  lookups.map (·.outcome.toOption)

namespace SolanaNode

variable
  (node : SolanaNode)
  (transport : Transport)
  (network : Network)
  (cache : MintCache)

/-- The look-up of a mint. -/
def lookup
    (log : Log)
    (mint : Json) :
    Lookup :=
  let ended := (node.lookupMint transport cache mint).run network log
  ⟨mint, log.calls, ended.2.calls.drop log.calls.length, ended.1⟩

/-- The look-ups of some mints, one after the other. -/
def lookupEach :
    Log → List Json → List Lookup
  | _, [] => []
  | log, mint :: rest =>
    node.lookup transport network cache log mint ::
      lookupEach ((node.lookupMint transport cache mint).run network log).2 rest

theorem exists_looks
    (log : Log)
    (mint : Json) :
    ∃ calls outcome,
      (node.lookupMint transport cache mint).run network log =
          (outcome, { log with calls := log.calls ++ calls }) ∧
        Looks node transport network cache ⟨mint, log.calls, calls, outcome⟩ := by
  have same : { log with calls := log.calls ++ [] } = log := by
    rw [List.append_nil]
  cases printed : mint.print with
  | error fault =>
      refine ⟨[], .error fault, ?_, .unprintable printed⟩
      rw [lookupMint, printed, same]
      rfl
  | ok key =>
      cases kept : cache.get? key with
      | some record =>
          refine ⟨[], .ok (.kept record), ?_, .kept printed kept⟩
          rw [lookupMint, printed, liftM_ok_bind, same]
          simp only [kept, run_pure]
      | none =>
          cases derived : metadataAddressOf mint with
          | error fault =>
              refine ⟨[], .error fault, ?_, .nowhere printed kept derived⟩
              rw [lookupMint, printed, liftM_ok_bind, same]
              simp only [kept, derived]
              rfl
          | ok account =>
              -- Only a text has a metadata account.
              cases mint with
              | text written =>
                  rcases Except.ok.inj ((Json.print_text written).symm.trans printed) with rfl
                  exact ⟨_, _, run_lookupMint_of_account kept derived network log,
                    .asked kept derived⟩
              | _ =>
                  cases derived

theorem run_lookupMint
    (log : Log)
    (mint : Json) :
    (node.lookupMint transport cache mint).run network log =
      ((node.lookup transport network cache log mint).outcome,
        { log with
          calls := log.calls ++ (node.lookup transport network cache log mint).calls }) := by
  rcases node.exists_looks transport network cache log mint with ⟨calls, outcome, ended, -⟩
  simp only [lookup, ended, List.drop_left]

theorem looks_lookup
    (log : Log)
    (mint : Json) :
    Looks node transport network cache (node.lookup transport network cache log mint) := by
  rcases node.exists_looks transport network cache log mint with ⟨calls, outcome, ended, looks⟩
  simpa only [lookup, ended, List.drop_left] using looks

/-! ## Many look-ups -/

theorem looks_lookupEach
    (log : Log)
    (mints : List Json) :
    ∀ lookup ∈ node.lookupEach transport network cache log mints,
      Looks node transport network cache lookup := by
  induction mints generalizing log with
  | nil =>
      exact fun lookup member => absurd member List.not_mem_nil
  | cons mint rest induction =>
      intro lookup member
      rcases List.mem_cons.1 member with rfl | inRest
      · exact node.looks_lookup transport network cache log mint
      · exact induction _ lookup inRest

theorem map_mint_lookupEach
    (log : Log)
    (mints : List Json) :
    (node.lookupEach transport network cache log mints).map (·.mint) = mints := by
  induction mints generalizing log with
  | nil =>
      rfl
  | cons mint rest induction =>
      exact congrArg (mint :: ·) (induction _)

/-- Each look-up comes after the calls of those before it. -/
theorem before_lookupEach
    {log : Log}
    {mints : List Json}
    {first last : List Lookup}
    {lookup : Lookup}
    (split : node.lookupEach transport network cache log mints = first ++ lookup :: last) :
    lookup.before = log.calls ++ first.flatMap (·.calls) := by
  induction mints generalizing log first with
  | nil =>
      cases first <;> cases split
  | cons mint rest induction =>
      cases first with
      | nil =>
          cases split
          exact (List.append_nil _).symm
      | cons head between =>
          rcases List.cons.inj split with ⟨rfl, later⟩
          rw [induction later, run_lookupMint]
          exact List.append_assoc _ _ _

/-- The look-ups of a list are those that are attempted one after the other. -/
theorem run_attemptEach_lookupMint
    (log : Log)
    (entries : List AccountEntry) :
    (attemptEach (fun entry : AccountEntry => node.lookupMint transport cache entry.mint)
        entries).run network log =
      (.ok ((node.lookupEach transport network cache log (entries.map (·.mint))).map (·.outcome)),
        { log with
          calls := log.calls ++
            (node.lookupEach transport network cache log
              (entries.map (·.mint))).flatMap (·.calls) }) := by
  induction entries generalizing log with
  | nil =>
      exact congrArg (fun calls => (Except.ok [], { log with calls := calls }))
        (List.append_nil _).symm
  | cons entry rest induction =>
      simp only [attemptEach, run_bind, run_attempt, induction, run_pure, List.map_cons,
        lookupEach, List.flatMap_cons]
      rw [run_lookupMint]
      simp only [List.append_assoc]

theorem run_fetchEach_lookupMint
    (chain : ChainId)
    (tier : Tier)
    (log : Log)
    (entries : List AccountEntry) :
    ∃ events,
      (fetchEach chain tier
          (fun entry : AccountEntry => node.lookupMint transport cache entry.mint)
          entries).run network log =
        (.ok (lookupValues (node.lookupEach transport network cache log (entries.map (·.mint)))),
          ⟨log.calls ++
            (node.lookupEach transport network cache log
              (entries.map (·.mint))).flatMap (·.calls), events⟩) := by
  refine ⟨log.events ++
    ((node.lookupEach transport network cache log (entries.map (·.mint))).map
      (·.outcome)).flatMap (partWarnings chain tier metadataPart), ?_⟩
  rw [fetchEach, run_bind, run_attemptEach_lookupMint]
  dsimp only
  rw [run_settleEach, lookupValues, List.map_map]
  rfl

end SolanaNode

/-! ## What is kept -/

/-- The last record of a mint that some look-ups found. -/
def lastFound?
    (lookups : List Lookup)
    (key : String) :
    Option MintRecord :=
  (lookups.filterMap (·.found? key)).getLast?

theorem lastFound?_append
    (first second : List Lookup)
    (key : String) :
    lastFound? (first ++ second) key = (lastFound? second key).or (lastFound? first key) := by
  rw [lastFound?, List.filterMap_append, List.getLast?_append]
  rfl

theorem lastFound?_singleton
    (lookup : Lookup)
    (key : String) :
    lastFound? [lookup] key = lookup.found? key := by
  rw [lastFound?, List.filterMap_cons]
  cases lookup.found? key <;> rfl

theorem lastFound?_eq_none
    {lookups : List Lookup}
    {key : String} :
    lastFound? lookups key = none ↔ ∀ lookup ∈ lookups, lookup.found? key = none := by
  rw [lastFound?, List.getLast?_eq_none_iff, List.filterMap_eq_nil_iff]

theorem storeAll_cons
    (cache : MintCache)
    (lookup : Lookup)
    (rest : List Lookup) :
    SolanaNode.storeAll cache (lookupValues (lookup :: rest)) =
      SolanaNode.storeAll (SolanaNode.storeAll cache (lookupValues [lookup])) (lookupValues rest) :=
  rfl

theorem get?_storeAll_singleton
    (cache : MintCache)
    (lookup : Lookup)
    (key : String) :
    (SolanaNode.storeAll cache (lookupValues [lookup])).get? key =
      (lookup.found? key).or (cache.get? key) := by
  rcases lookup with ⟨mint, before, calls, outcome⟩
  cases outcome with
  | error fault =>
      rfl
  | ok ended =>
      cases ended with
      | kept record =>
          rfl
      | absent =>
          rfl
      | found found record =>
          show (cache.insert found record).get? key =
            (if found = key then some record else none).or (cache.get? key)
          by_cases same : found = key
          · rw [same, if_pos rfl, MintCache.get?_insert_self]
            rfl
          · rw [if_neg same, MintCache.get?_insert_of_ne _ _ fun equal => same equal.symm]
            rfl

/-- What is kept of a mint is the record that was found last. -/
theorem get?_storeAll
    (cache : MintCache)
    (lookups : List Lookup)
    (key : String) :
    (SolanaNode.storeAll cache (lookupValues lookups)).get? key =
      (lastFound? lookups key).or (cache.get? key) := by
  induction lookups generalizing cache with
  | nil =>
      rfl
  | cons lookup rest induction =>
      rw [storeAll_cons, induction, get?_storeAll_singleton, ← List.singleton_append,
        lastFound?_append, lastFound?_singleton, Option.or_assoc]

theorem storeAll_singleton_of_unfound
    {lookup : Lookup}
    (unfound : ∀ key, lookup.found? key = none)
    (cache : MintCache) :
    SolanaNode.storeAll cache (lookupValues [lookup]) = cache := by
  rcases lookup with ⟨mint, before, calls, outcome⟩
  cases outcome with
  | error fault =>
      rfl
  | ok ended =>
      cases ended with
      | kept record =>
          rfl
      | absent =>
          rfl
      | found found record =>
          exact absurd ((if_pos rfl).symm.trans (unfound found)) (Option.some_ne_none record)

/-- Look-ups that find nothing change nothing. -/
theorem storeAll_of_unfound
    {lookups : List Lookup}
    (unfound : ∀ lookup ∈ lookups, ∀ key, lookup.found? key = none)
    (cache : MintCache) :
    SolanaNode.storeAll cache (lookupValues lookups) = cache := by
  induction lookups with
  | nil =>
      rfl
  | cons lookup rest induction =>
      rw [storeAll_cons, storeAll_singleton_of_unfound (unfound lookup List.mem_cons_self)]
      exact induction fun other member => unfound other (List.mem_cons_of_mem _ member)

/-! ## What a look-up of a batch says -/

variable
  {node : SolanaNode}
  {transport : Transport}
  {network : Network}
  {cache : MintCache}
  {lookup : Lookup}

/-- A record that is kept is the answer, and nothing is called. -/
theorem Looks.of_kept
    (looks : Looks node transport network cache lookup)
    {key : String}
    {record : MintRecord}
    (printed : lookup.mint.print = .ok key)
    (kept : cache.get? key = some record) :
    lookup.calls = [] ∧ lookup.outcome = .ok (.kept record) := by
  cases looks with
  | unprintable unprintable =>
      rw [unprintable] at printed
      cases printed
  | kept otherPrinted otherKept =>
      rw [printed] at otherPrinted
      cases otherPrinted
      rw [kept] at otherKept
      cases otherKept
      exact ⟨rfl, rfl⟩
  | nowhere otherPrinted missing underivable =>
      rw [printed] at otherPrinted
      cases otherPrinted
      rw [kept] at missing
      cases missing
  | @asked mint account before missing derived =>
      rcases Except.ok.inj ((Json.print_text mint).symm.trans printed) with rfl
      rw [kept] at missing
      cases missing

/-- A mint of which no record is kept is asked for, when it has an account. -/
theorem Looks.of_account
    (looks : Looks node transport network cache lookup)
    {mint account : String}
    (named : lookup.mint = .text mint)
    (missing : cache.get? mint = none)
    (derived : metadataAddress mint = .ok account) :
    lookup.calls = [infoCall transport node.endpoint account] ∧
      lookup.outcome = (receiveInfo transport
        (network lookup.before (infoCall transport node.endpoint account))).map
          (MintLookup.ofRead mint) := by
  cases looks with
  | unprintable unprintable =>
      cases named
      cases unprintable
  | kept printed kept =>
      cases named
      rcases Except.ok.inj ((Json.print_text mint).symm.trans printed) with rfl
      rw [missing] at kept
      cases kept
  | nowhere printed otherMissing underivable =>
      cases named
      rw [metadataAddressOf, derived] at underivable
      cases underivable
  | asked otherMissing otherDerived =>
      cases named
      rw [derived] at otherDerived
      cases otherDerived
      exact ⟨rfl, rfl⟩

/-- What is found is the metadata that the network tells about the account of the mint. -/
theorem Looks.of_found
    (looks : Looks node transport network cache lookup)
    {key : String}
    {record : MintRecord}
    (found : lookup.found? key = some record) :
    lookup.mint = .text key ∧ cache.get? key = none ∧
      ∃ account metadata,
        metadataAddress key = .ok account ∧
          receiveInfo transport
              (network lookup.before (infoCall transport node.endpoint account)) =
            .ok (some metadata) ∧
          record = .ofMetadata metadata := by
  cases looks with
  | unprintable unprintable =>
      cases found
  | kept printed kept =>
      cases found
  | nowhere printed missing underivable =>
      cases found
  | @asked mint account before missing derived =>
      rw [Lookup.found?] at found
      cases received : receiveInfo transport
          (network before (infoCall transport node.endpoint account)) with
      | error fault =>
          rw [received] at found
          cases found
      | ok metadata? =>
          rw [received] at found
          cases metadata? with
          | none =>
              cases found
          | some metadata =>
              have same : mint = key := by
                by_contra different
                exact absurd (found.symm.trans (if_neg different)) (Option.some_ne_none record)
              subst same
              have recorded : some (MintRecord.ofMetadata metadata) = some record :=
                (if_pos rfl).symm.trans found
              exact ⟨rfl, missing, account, metadata, derived, received,
                (Option.some.inj recorded).symm⟩

/-- A call is made for a mint of which no record is kept. -/
theorem Looks.missing_of_calls
    (looks : Looks node transport network cache lookup)
    (called : lookup.calls ≠ [])
    {key : String}
    (printed : lookup.mint.print = .ok key) :
    cache.get? key = none := by
  cases kept : cache.get? key with
  | none =>
      rfl
  | some record =>
      exact absurd (looks.of_kept printed kept).1 called

end Holdings.Backend
