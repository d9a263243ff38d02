import Holdings.Proofs.Backend.Serving
import Holdings.Proofs.Solana.Extent

/-!
# What a search for accounts finds

A search of Solana answers with entries of any shape.  Those that hold a metadata account in
base 64 become tokens, and all others are meant to be passed over, whatever is wrong with them.

No way in which an entry can be malformed ends the search by itself.  But what is passed over is
named in a report, by the public key that stands in the entry, and so the entry has to be an
object whose key can be printed.  Anything else ends the search after all.
-/

namespace Holdings

open Fetch Outcome Solana

/-! ## Faults of base 64 -/

namespace Base64

/-- Text that is no base 64 is refused as a value, wherever a reader stands. -/
theorem failsOnlyWith_decodeFrom
    (progress : Progress)
    (characters : List Char) :
    FailsOnlyWith .value (decodeFrom progress characters) := by
  induction characters generalizing progress with
  | nil =>
      rw [decodeFrom]
      split
      · exact .ok _
      · exact .error rfl
  | cons character rest induction =>
      rw [decodeFrom.eq_def]
      dsimp only
      split
      · split
        · exact induction _
        · split
          · exact .ok _
          · exact induction _
      · split
        · exact induction _
        · split
          · exact induction _
          · exact (induction _).map _
          · exact (induction _).map _
          · exact (induction _).map _

theorem failsOnlyWith_decode
    (text : String) :
    FailsOnlyWith .value (decode text) := by
  unfold decode
  split
  · exact failsOnlyWith_decodeFrom _ _
  · exact .error rfl

end Base64

namespace Backend

/-! ## Entries -/

/-- What the account of an entry says, if its data begin with a metadata account in base 64. -/
def foundMetadata?
    (entry : Json) :
    Option Metadata :=
  (entry.get? "account").bind fun account =>
    (account.get? "data").bind fun data =>
      match data.firstItem with
      | .ok (.text written) => (Base64.decode written >>= Metadata.decode).toOption
      | _ => none

/-- The token of an entry that holds a metadata account. -/
def foundToken?
    (entry : Json) :
    Option Json :=
  (foundMetadata? entry).map SolanaNode.nftEntry

/-- An object with a public key that can be printed, or with none. -/
def IsReportable
    (entry : Json) :
    Prop :=
  ∃ members,
    entry = .object members ∧ ((Json.find? members "pubkey").getD .null).isShowable = true

/-! ## Malformed entries -/

/-- Every fault of an outcome lets an entry be passed over. -/
def OnlyPassesOver
    {α : Type}
    (outcome : Except Fault α) :
    Prop :=
  ∀ fault, outcome = .error fault → SolanaNode.isPassedOver fault = true

namespace OnlyPassesOver

variable {α β : Type}

theorem ok
    (value : α) :
    OnlyPassesOver (.ok value) := by
  intro fault refused
  cases refused

theorem error
    {fault : Fault}
    (passed : SolanaNode.isPassedOver fault = true) :
    OnlyPassesOver (.error fault : Except Fault α) := by
  intro other refused
  cases refused
  exact passed

theorem bind
    {first : Except Fault α}
    {next : α → Except Fault β}
    (here : OnlyPassesOver first)
    (rest : ∀ value, OnlyPassesOver (next value)) :
    OnlyPassesOver (first >>= next) := by
  cases first with
  | error fault =>
      exact error (here fault rfl)
  | ok value =>
      exact rest value

theorem of_failsOnlyWith
    {outcome : Except Fault α}
    (failsOnly : FailsOnlyWith .value outcome) :
    OnlyPassesOver outcome := by
  intro fault refused
  have kind := failsOnly fault refused
  unfold SolanaNode.isPassedOver
  split
  · rfl
  · rfl
  · rfl
  · exact decide_eq_true kind

end OnlyPassesOver

theorem onlyPassesOver_member
    (value : Json)
    (name : String) :
    OnlyPassesOver (value.member name) := by
  unfold Json.member
  split
  · split
    · exact .ok _
    · exact .error rfl
  · exact .error rfl

theorem onlyPassesOver_firstItem
    (data : Json) :
    OnlyPassesOver data.firstItem := by
  unfold Json.firstItem
  split
  · exact .ok _
  · exact .error rfl
  · split
    · exact .ok _
    · exact .error rfl
  · exact .error rfl
  · exact .error rfl

theorem onlyPassesOver_readMetadata
    (data : Json) :
    OnlyPassesOver (SolanaNode.readMetadata data) := by
  apply (onlyPassesOver_firstItem data).bind
  intro first
  split
  · apply (OnlyPassesOver.of_failsOnlyWith (Base64.failsOnlyWith_decode _)).bind
    intro bytes
    exact .of_failsOnlyWith fun fault refused => Metadata.kind_of_decode refused
  · exact .error rfl

/-- However malformed an entry is, it can be passed over. -/
theorem onlyPassesOver_readFoundAccount
    (entry : Json) :
    OnlyPassesOver (SolanaNode.readFoundAccount entry) := by
  apply (onlyPassesOver_member entry _).bind
  intro account
  apply (onlyPassesOver_member account _).bind
  intro data
  exact onlyPassesOver_readMetadata data

/-! ## Reading entries -/

theorem toOption_member
    (value : Json)
    (name : String) :
    (value.member name).toOption = value.get? name := by
  cases value with
  | object members =>
      rw [Json.member, Json.get?]
      cases Json.find? members name <;> rfl
  | _ =>
      rfl

theorem toOption_readMetadata
    (data : Json) :
    (SolanaNode.readMetadata data).toOption =
      match data.firstItem with
      | .ok (.text written) => (Base64.decode written >>= Metadata.decode).toOption
      | _ => none := by
  unfold SolanaNode.readMetadata
  cases data.firstItem with
  | error fault =>
      rfl
  | ok first =>
      cases first <;> rfl

/-- An entry is read as the metadata that it holds. -/
theorem toOption_readFoundAccount
    (entry : Json) :
    (SolanaNode.readFoundAccount entry).toOption = foundMetadata? entry := by
  simp only [SolanaNode.readFoundAccount, foundMetadata?, toOption_bind, toOption_member,
    toOption_readMetadata]

theorem checkReported_eq_ok_iff
    {entry : Json} :
    SolanaNode.checkReported entry = .ok () ↔ IsReportable entry := by
  unfold SolanaNode.checkReported IsReportable
  cases entry with
  | object members =>
      simp only [Json.lookup_object, ok_bind, Json.object.injEq, exists_eq_left']
      split
      · next showable =>
          exact iff_of_true rfl showable
      · next notShowable =>
          exact iff_of_false nofun notShowable
  | _ =>
      simp [Json.lookup, Json.lookupOr, bind, Except.bind]

/-- An entry gives its token, or is passed over once it was reported. -/
theorem readFoundAccounts_cons
    (entry : Json)
    (rest : List Json) :
    SolanaNode.readFoundAccounts (entry :: rest) =
      match foundToken? entry with
      | some token => (SolanaNode.readFoundAccounts rest).map (token :: ·)
      | none => SolanaNode.checkReported entry >>= fun _ => SolanaNode.readFoundAccounts rest := by
  rw [SolanaNode.readFoundAccounts, foundToken?, ← toOption_readFoundAccount]
  cases read : SolanaNode.readFoundAccount entry with
  | ok metadata =>
      dsimp only [Except.toOption, Option.map_some]
      cases SolanaNode.readFoundAccounts rest <;> rfl
  | error fault =>
      dsimp only [Except.toOption, Option.map_none]
      rw [if_pos (onlyPassesOver_readFoundAccount entry fault read)]

/-- A list comes to the tokens in it exactly when every other entry can be reported. -/
theorem readFoundAccounts_eq_ok_iff
    {entries : List Json} :
    SolanaNode.readFoundAccounts entries = .ok (entries.filterMap foundToken?) ↔
      ∀ entry ∈ entries, foundToken? entry = none → IsReportable entry := by
  induction entries with
  | nil =>
      simp [SolanaNode.readFoundAccounts]
  | cons entry rest induction =>
      rw [readFoundAccounts_cons, List.forall_mem_cons, List.filterMap_cons, ← induction]
      cases found : foundToken? entry with
      | some token =>
          dsimp only
          rw [map_eq_ok]
          simp
      | none =>
          dsimp only
          rw [bind_eq_ok, ← checkReported_eq_ok_iff]
          constructor
          · rintro ⟨⟨⟩, reported, others⟩
            exact ⟨fun _ => reported, others⟩
          · rintro ⟨reported, others⟩
            exact ⟨(), reported rfl, others⟩

/-! ## The search -/

/-- The call with which a node is searched for the metadata accounts of a wallet. -/
def searchRun
    (node : SolanaNode)
    (transport : Transport)
    (address : Json)
    (network : Network)
    (log : Log) :
    Except Fault Json × Log :=
  (node.call transport "getProgramAccounts" (node.searchParams address)).run network log

theorem run_nfts_of_answered
    {node : SolanaNode}
    {transport : Transport}
    {address : Json}
    {network : Network}
    {log : Log}
    {entries : List Json}
    (answered : (searchRun node transport address network log).1 = .ok (.array entries)) :
    ((node.nfts transport address).run network log).1 =
      SolanaNode.readFoundAccounts entries := by
  have listed : ((Json.array entries).orElse (.array [])).elements = .ok entries := by
    cases entries <;> rfl
  have steps : node.nfts transport address =
      node.call transport "getProgramAccounts" (node.searchParams address) >>= fun result =>
        liftM ((result.orElse (.array [])).elements >>= SolanaNode.readFoundAccounts) := by
    simp only [SolanaNode.nfts, liftM_bind]
  rw [searchRun] at answered
  rw [steps, run_bind_liftM, answered, ok_bind, listed, ok_bind]

/--
Whatever entries a search is answered with, it comes to one token for each that holds a metadata
account, in order, and to nothing else, exactly when each of the others is an object whose public
key can be printed.
-/
theorem nfts_eq_found_iff
    {node : SolanaNode}
    {transport : Transport}
    {address : Json}
    {network : Network}
    {log : Log}
    {entries : List Json}
    (answered : (searchRun node transport address network log).1 = .ok (.array entries)) :
    ((node.nfts transport address).run network log).1 =
        .ok (entries.filterMap foundToken?) ↔
      ∀ entry ∈ entries, foundToken? entry = none → IsReportable entry := by
  rw [run_nfts_of_answered answered, readFoundAccounts_eq_ok_iff]

/-- A network that answers every call with a list of entries. -/
def searchedNetwork
    (entries : List Json) :
    Network :=
  fun _ _ => .value (.object [("result", .array entries)])

/-- An entry with data in base 64. -/
def entryOfData
    (key data : String) :
    Json :=
  .object
    [("pubkey", .text key),
      ("account", .object [("data", .array [.text data, .text "base64"])])]

/-- An entry that holds a metadata account. -/
def describedEntry : Json :=
  entryOfData "nft"
    ("BAAAAAAAAAAAAAAAAAAAAAAAAAAAAAAAAAAAAAAAAAAAAAAAAAAAAAAAAAAAAAAAAAAAAAAAAAAAAAAAAAAAAAAF" ++
      "AAAAQXBlAAADAAAAQVBFAAAAAPQBAAAB")

/-- The token of this entry. -/
def describedToken : Json :=
  .object
    [("mint", .text "11111111111111111111111111111111"), ("name", .text "Ape"),
      ("symbol", .text "APE"), ("uri", .text "")]

/-- The entry between others that are malformed in several ways, which can all be reported. -/
def mixedEntries : List Json :=
  [entryOfData "junk" "AAE=", describedEntry, entryOfData "open" "AAE", .object [],
    .object [("account", .object [("data", .array [])])]]

theorem foundToken?_describedEntry :
    foundToken? describedEntry = some describedToken := by
  have found : foundMetadata? describedEntry = some {
      updateAuthority := "11111111111111111111111111111111"
      mint := "11111111111111111111111111111111"
      name := "Ape"
      symbol := "APE"
      link := ""
      sellerFee := 500
      creators := []
      primarySaleHappened := false
      isMutable := true } := by
    decide +kernel
  rw [foundToken?, found]
  rfl

theorem nfts_eq_found_mixed :
    (searchRun (.standard "https://node") .standard (.text "B") (searchedNetwork mixedEntries)
        .empty).1 = .ok (.array mixedEntries) ∧
      (((SolanaNode.standard "https://node").nfts .standard (.text "B")).run
        (searchedNetwork mixedEntries) .empty).1 = .ok [describedToken] := by
  have answered : (searchRun (.standard "https://node") .standard (.text "B")
      (searchedNetwork mixedEntries) .empty).1 = .ok (.array mixedEntries) :=
    rfl
  have others : mixedEntries.filterMap foundToken? = [describedToken] := by
    have junk : foundToken? (entryOfData "junk" "AAE=") = none := rfl
    have unfinished : foundToken? (entryOfData "open" "AAE") = none := rfl
    simp only [mixedEntries, List.filterMap_cons, junk, foundToken?_describedEntry, unfinished]
    rfl
  refine ⟨answered, ?_⟩
  rw [← others]
  apply (nfts_eq_found_iff answered).2
  intro entry member missing
  simp only [mixedEntries, List.mem_cons, List.not_mem_nil, or_false] at member
  rcases member with rfl | rfl | rfl | rfl | rfl
  · exact ⟨_, rfl, rfl⟩
  · exact ⟨_, rfl, rfl⟩
  · exact ⟨_, rfl, rfl⟩
  · exact ⟨_, rfl, rfl⟩
  · exact ⟨_, rfl, rfl⟩

/-- An entry that is null ends the search, and the token beside it is lost. -/
theorem not_nfts_eq_found_null :
    (searchRun (.standard "https://node") .standard (.text "B")
        (searchedNetwork [describedEntry, .null]) .empty).1 =
        .ok (.array [describedEntry, .null]) ∧
      (((SolanaNode.standard "https://node").nfts .standard (.text "B")).run
        (searchedNetwork [describedEntry, .null]) .empty).1 = .error .noMembers ∧
      [describedEntry, .null].filterMap foundToken? = [describedToken] := by
  refine ⟨rfl, ?_, ?_⟩
  · rw [run_nfts_of_answered rfl, readFoundAccounts_cons, foundToken?_describedEntry]
    rfl
  · simp only [List.filterMap_cons, foundToken?_describedEntry]
    rfl

end Backend

end Holdings
