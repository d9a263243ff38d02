import Holdings.Proofs.Backend.Parts
import Holdings.Proofs.Network.Replies
import Holdings.Proofs.Solana.Wallet

/-!
# Look-ups of metadata

What is told about a token comes from the records that are kept or from the
metadata account of its mint.  As long as no network ever tells anything else
about a mint than what stands in its account, it makes no difference which of the
two it is: whatever is kept agrees with the accounts, and so does all that is
kept after further look-ups.
-/

namespace Holdings.Backend

open Fetch Solana

/-! ## Answers about accounts -/

/-- The parameters with which an account is asked for. -/
def infoParams
    (account : String) :
    List Json :=
  [.text account, .object [("encoding", .text "base64")]]

/-- The metadata in an answer about an account; a missing account has none. -/
def readInfo
    (result : Json) :
    Except Fault (Option Metadata) := do
  let value ← result.orEmpty.lookup "value"
  if value.isPresent then
    let data ← value.member "data"
    return some (← SolanaNode.readMetadata data)
  else
    return none

/-- What a look-up on the network ends with, given the metadata that was read. -/
def MintLookup.ofRead
    (mint : String) :
    Option Metadata → MintLookup
  | some metadata => .found mint (.ofMetadata metadata)
  | none => .absent

/-- What is made of a reply about an account. -/
def receiveInfo
    (transport : Transport)
    (reply : Reply) :
    Except Fault (Option Metadata) :=
  transport.receive reply >>= Transport.readEnvelope "getAccountInfo" >>= readInfo

/-- The call for an account at an endpoint. -/
def infoCall
    (transport : Transport)
    (endpoint account : String) :
    Call :=
  .rpc transport.channel endpoint "getAccountInfo" (.array (infoParams account))

/-! ## Single look-ups -/

namespace SolanaNode

variable {node : SolanaNode} {transport : Transport} {cache : MintCache} {mint : String}

theorem run_lookupMint_of_some
    {record : MintRecord}
    (kept : cache.get? mint = some record)
    (network : Network)
    (log : Log) :
    (node.lookupMint transport cache (.text mint)).run network log =
      (.ok (.kept record), log) := by
  rw [lookupMint, Json.print_text, liftM_ok_bind]
  simp only [kept, run_pure]

theorem run_lookupMint_of_no_account
    (missing : cache.get? mint = none)
    {fault : Fault}
    (underivable : metadataAddress mint = .error fault)
    (network : Network)
    (log : Log) :
    (node.lookupMint transport cache (.text mint)).run network log = (.error fault, log) := by
  rw [lookupMint, Json.print_text, liftM_ok_bind]
  simp only [missing, metadataAddressOf, underivable]
  rfl

/-- What a look-up makes of the answer about the account of a mint. -/
def finishLookup
    (mint : String)
    (result : Json) :
    Fetch MintLookup := do
  let value ← result.orEmpty.lookup "value"
  if value.isPresent then
    let data ← value.member "data"
    let metadata ← readMetadata data
    return .found mint (.ofMetadata metadata)
  else
    return .absent

theorem run_finishLookup
    (mint : String)
    (result : Json)
    (network : Network)
    (log : Log) :
    (finishLookup mint result).run network log =
      ((readInfo result).map (MintLookup.ofRead mint), log) := by
  unfold finishLookup readInfo
  cases result.orEmpty.lookup "value" with
  | error fault =>
      rfl
  | ok value =>
      rw [liftM_ok_bind, Outcome.ok_bind]
      by_cases present : value.isPresent = true
      · rw [if_pos present, if_pos present]
        cases value.member "data" with
        | error fault =>
            rfl
        | ok data =>
            rw [liftM_ok_bind, Outcome.ok_bind]
            cases readMetadata data with
            | error fault =>
                rfl
            | ok metadata =>
                rfl
      · rw [if_neg present, if_neg present]
        rfl

/-- A mint without a record is looked up at its metadata account. -/
theorem run_lookupMint_of_account
    (missing : cache.get? mint = none)
    {account : String}
    (derived : metadataAddress mint = .ok account)
    (network : Network)
    (log : Log) :
    (node.lookupMint transport cache (.text mint)).run network log =
      ((receiveInfo transport
          (network log.calls (infoCall transport node.endpoint account))).map
            (MintLookup.ofRead mint),
        { log with calls := log.calls ++ [infoCall transport node.endpoint account] }) := by
  rw [lookupMint, Json.print_text, liftM_ok_bind]
  simp only [missing, metadataAddressOf, derived]
  rw [liftM_ok_bind, receiveInfo, infoCall]
  have asked := transport.run_rpc node.endpoint "getAccountInfo" (.array (infoParams account))
    network log
  cases answered : transport.receive (network log.calls
      (.rpc transport.channel node.endpoint "getAccountInfo" (.array (infoParams account))))
      >>= Transport.readEnvelope "getAccountInfo" with
  | error fault =>
      rw [answered] at asked
      exact run_bind_of_error asked _
  | ok result =>
      rw [answered] at asked
      have ended := run_bind_of_ok asked (finishLookup mint)
      rw [run_finishLookup] at ended
      exact ended

end SolanaNode

/-! ## Records that agree with the accounts -/

/-- What is kept about the mints of a wallet stands in their accounts. -/
def MintCache.Agrees
    (cache : MintCache)
    (wallet : Wallet) :
    Prop :=
  ∀ held ∈ wallet.tokens, ∀ record,
    cache.get? held.mint.text = some record → wallet.Confirms held record

/-- What a look-up found on the network about a mint of a wallet stands in its account. -/
def MintLookup.Agrees
    (wallet : Wallet) :
    MintLookup → Prop
  | .found mint record =>
    ∀ held ∈ wallet.tokens, held.mint.text = mint → wallet.Confirms held record
  | _ => True

/-- At no time does a network tell anything about a mint but what stands in its account. -/
def Faithful
    (wallet : Wallet)
    (transport : Transport)
    (endpoint : String)
    (network : Network) :
    Prop :=
  ∀ held ∈ wallet.tokens, ∀ earlier account metadata,
    held.mint.metadataAccount? = some account →
      receiveInfo transport
          (network earlier (infoCall transport endpoint (Base58.encode account))) =
        .ok (some metadata) →
          wallet.Confirms held (.ofMetadata metadata)

variable {wallet : Wallet} {cache : MintCache}

theorem MintCache.agrees_empty
    (wallet : Wallet) :
    MintCache.empty.Agrees wallet := by
  intro held member record kept
  cases kept

theorem MintCache.Agrees.store
    (agrees : cache.Agrees wallet)
    {lookup : MintLookup}
    (lookupAgrees : lookup.Agrees wallet) :
    (lookup.store cache).Agrees wallet := by
  cases lookup with
  | kept record =>
      exact agrees
  | absent =>
      exact agrees
  | found mint record =>
      intro held member known kept
      by_cases same : held.mint.text = mint
      · rw [MintLookup.store, same, get?_insert_self] at kept
        cases kept
        exact lookupAgrees held member same
      · rw [MintLookup.store, get?_insert_of_ne _ _ same] at kept
        exact agrees held member known kept

/-- What is kept after some look-ups agrees with the accounts when what was found does. -/
theorem MintCache.Agrees.storeAll
    (agrees : cache.Agrees wallet)
    {lookups : List (Option MintLookup)}
    (each : ∀ lookup, some lookup ∈ lookups → lookup.Agrees wallet) :
    (SolanaNode.storeAll cache lookups).Agrees wallet := by
  induction lookups generalizing cache with
  | nil =>
      exact agrees
  | cons first rest induction =>
      have later : ∀ lookup, some lookup ∈ rest → lookup.Agrees wallet :=
        fun lookup member => each lookup (List.mem_cons_of_mem _ member)
      cases first with
      | none =>
          exact induction agrees later
      | some lookup =>
          exact induction (agrees.store (each lookup List.mem_cons_self)) later

namespace SolanaNode

variable {node : SolanaNode} {transport : Transport} {network : Network}

/-- A network that tells nothing else lets nothing else be found. -/
theorem agrees_of_lookupMint
    (faithful : Faithful wallet transport node.endpoint network)
    {mint : Json}
    {log grown : Log}
    {lookup : MintLookup}
    (ended : (node.lookupMint transport cache mint).run network log = (.ok lookup, grown)) :
    lookup.Agrees wallet := by
  rcases bind_run_eq_ok ended with ⟨key, keyLog, printed, rest⟩
  cases kept : cache.get? key with
  | some record =>
      simp only [kept] at rest
      cases rest
      trivial
  | none =>
      simp only [kept] at rest
      rcases bind_run_eq_ok rest with ⟨account, accountLog, derived, -⟩
      -- Only a text has a metadata account.
      cases mint with
      | text written =>
          cases printed
          have missing : cache.get? written = none := kept
          have derived : metadataAddress written = .ok account := congrArg Prod.fst derived
          have read := congrArg Prod.fst ended
          rw [run_lookupMint_of_account missing derived] at read
          rcases Outcome.map_eq_ok.1 read with ⟨metadata?, received, same⟩
          cases metadata? with
          | none =>
              cases same
              trivial
          | some metadata =>
              cases same
              rintro held member rfl
              rcases Address.metadataAddress_text.1 derived with ⟨bytes, there, rfl⟩
              exact faithful held member log.calls bytes metadata there received
      | _ =>
          cases derived

/-- Balances keep nothing but what agrees with the accounts. -/
theorem agrees_of_balances
    (faithful : Faithful wallet transport node.endpoint network)
    (agrees : cache.Agrees wallet)
    {chain : ChainId}
    {address : Json}
    {tier : Tier}
    {log grown : Log}
    {payload : Payload}
    {kept : MintCache}
    (ended : (node.balances transport cache chain address tier).run network log =
      (.ok (payload, kept), grown)) :
    kept.Agrees wallet := by
  rcases bind_run_eq_ok ended with ⟨slots, slotsLog, -, afterSlots⟩
  rcases bind_run_eq_ok afterSlots with ⟨lookups, lookupsLog, looked, same⟩
  cases same
  apply agrees.storeAll
  intro lookup member
  rcases exists_run_fetchEach chain tier
      (fun entry : AccountEntry => node.lookupMint transport cache entry.mint)
      (slots.tokens.getD []) network slotsLog with
    ⟨values, later, fetched, own⟩
  rw [fetched] at looked
  cases looked
  rcases Outcome.exists_of_mem_right own member with ⟨entry, before, found⟩
  cases run : (node.lookupMint transport cache entry.mint).run network before with
  | mk outcome after =>
      rw [run] at found
      cases outcome with
      | error fault =>
          cases found
      | ok value =>
          cases found
          exact agrees_of_lookupMint faithful run

end SolanaNode

end Holdings.Backend
