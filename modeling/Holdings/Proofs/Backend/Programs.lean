import Holdings.Proofs.Backend.Listings
import Holdings.Proofs.Backend.Serving

/-!
# Two token programs

A node of Solana is asked for the token accounts of a wallet twice, once for each token program.
The one answer is meant to be used whatever became of the other: a call that failed, an answer
without a list and an entry that is no account are passed over, and only two failed calls are a
failure.

An answer that has no list in its place may still stop the other one from being used.  It does
unless it is an object, and what stands for the list can be gone through if it is there at all.
-/

namespace Holdings.Backend

open Fetch Outcome Solana
open SolanaNode (AccountEntry)

/-! ## Listed accounts -/

/-- The entries of a program that has a list for its value. -/
def listedEntries : Except Fault Json → List Json
  | .ok result =>
    match result.getD "value" with
    | .array entries => entries
    | _ => []
  | .error _ => []

/-- Of listed entries those remain that tell of an account, in their order. -/
inductive Sifts : List Json → List AccountEntry → Prop where
  | nil :
      Sifts [] []
  | told
      {entry : Json}
      {account : AccountEntry}
      {entries : List Json}
      {accounts : List AccountEntry}
      (here : TellsAccount entry account)
      (rest : Sifts entries accounts) :
      Sifts (entry :: entries) (account :: accounts)
  | passedOver
      {entry : Json}
      {entries : List Json}
      {accounts : List AccountEntry}
      (malformed : ∀ account, ¬ TellsAccount entry account)
      (rest : Sifts entries accounts) :
      Sifts (entry :: entries) accounts

theorem sifts_readAccounts
    (entries : List Json) :
    Sifts entries (SolanaNode.readAccounts entries) := by
  induction entries with
  | nil =>
      exact .nil
  | cons entry rest induction =>
      rw [SolanaNode.readAccounts, List.filterMap_cons]
      cases read : SolanaNode.readAccount entry with
      | error fault =>
          apply Sifts.passedOver _ induction
          intro account tells
          cases read.symm.trans (readAccount_eq_ok_iff.2 tells)
      | ok account =>
          exact .told (readAccount_eq_ok_iff.1 read) induction

/-! ## Independent programs -/

/--
How two programs end that are independent of each other: with the first fault if both calls
failed, and else with the accounts of the one and then of the other.
-/
inductive EndsIndependently :
    Except Fault Json → Except Fault Json → Except Fault (List AccountEntry) → Prop where
  | failed
      (first second : Fault) :
      EndsIndependently (.error first) (.error second) (.error first)
  | joined
      {classic extended : Except Fault Json}
      {first second : List AccountEntry}
      (answered : ∃ result, classic = .ok result ∨ extended = .ok result)
      (siftsFirst : Sifts (listedEntries classic) first)
      (siftsSecond : Sifts (listedEntries extended) second) :
      EndsIndependently classic extended (.ok (first ++ second))

/-- What can be gone through item by item. -/
inductive IsIterable : Json → Prop where
  | array (items : List Json) : IsIterable (.array items)
  | text (written : String) : IsIterable (.text written)
  | object (members : List (String × Json)) : IsIterable (.object members)

/-- An object whose value can be gone through, if it has one. -/
inductive IsUsable : Json → Prop where
  | missing
      {members : List (String × Json)}
      (notThere : Json.find? members "value" = none) :
      IsUsable (.object members)
  | there
      {members : List (String × Json)}
      {value : Json}
      (held : Json.find? members "value" = some value)
      (iterable : IsIterable value) :
      IsUsable (.object members)

/-! ## What becomes of an answer -/

/-- Texts tell of no account. -/
theorem readAccounts_texts
    {α : Type}
    (items : List α)
    (write : α → String) :
    SolanaNode.readAccounts (items.map fun item => .text (write item)) = [] := by
  rw [SolanaNode.readAccounts, List.filterMap_eq_nil_iff]
  intro entry member
  rcases List.mem_map.1 member with ⟨item, -, rfl⟩
  rfl

/-- From a usable answer come the accounts of its list, or none without a list. -/
theorem programAccounts_of_isUsable
    {result : Json}
    (usable : IsUsable result) :
    SolanaNode.programAccounts result =
      .ok (SolanaNode.readAccounts (listedEntries (.ok result))) := by
  cases usable with
  | missing notThere =>
      simp only [SolanaNode.programAccounts, Json.lookupOr, notThere, listedEntries, Json.getD,
        Json.get?]
      rfl
  | there held iterable =>
      simp only [SolanaNode.programAccounts, Json.lookupOr, held, listedEntries, Json.getD,
        Json.get?, Option.getD_some, ok_bind]
      cases iterable with
      | array items =>
          rfl
      | text written =>
          exact congrArg Except.ok (readAccounts_texts _ _)
      | object members =>
          exact congrArg Except.ok (readAccounts_texts _ _)

theorem outcomeAccounts_of_isUsable
    {outcome : Except Fault Json}
    (usable : ∀ result, outcome = .ok result → IsUsable result) :
    SolanaNode.outcomeAccounts outcome =
      .ok (SolanaNode.readAccounts (listedEntries outcome)) := by
  cases outcome with
  | error fault =>
      rfl
  | ok result =>
      exact programAccounts_of_isUsable (usable result rfl)

/-- What lists entries is usable. -/
theorem isUsable_of_lists
    {result : Json}
    {entries : List Json}
    (lists : Lists (.ok result) entries) :
    IsUsable result := by
  rcases lists with ⟨there, each⟩
  cases result with
  | object members =>
      cases held : Json.find? members "value" with
      | none =>
          exact .missing held
      | some value =>
          rw [Json.lookupOr, held] at there
          cases there
          apply IsUsable.there held
          cases value with
          | array items =>
              exact .array items
          | text written =>
              exact .text written
          | object others =>
              exact .object others
          | null | bool | int | double =>
              cases each
  | null | bool | int | double | text | array =>
      cases there

/-- Unless both calls failed, the accounts of the one come before those of the other. -/
theorem joinPrograms_of_answered
    {classic extended : Except Fault Json}
    (answered : ∃ result, classic = .ok result ∨ extended = .ok result) :
    SolanaNode.joinPrograms classic extended = do
      let first ← SolanaNode.outcomeAccounts classic
      let second ← SolanaNode.outcomeAccounts extended
      return first ++ second := by
  rcases answered with ⟨result, rfl | rfl⟩
  · rfl
  · cases classic with
    | error fault =>
        rfl
    | ok other =>
        rfl

/-- Two programs are independent exactly when every answer that came is usable. -/
theorem endsIndependently_joinPrograms_iff
    {classic extended : Except Fault Json} :
    EndsIndependently classic extended (SolanaNode.joinPrograms classic extended) ↔
      ∀ result, classic = .ok result ∨ extended = .ok result → IsUsable result := by
  constructor
  · intro ends result answered
    generalize joined : SolanaNode.joinPrograms classic extended = outcome at ends
    cases ends with
    | failed first second =>
        rcases answered with impossible | impossible
        · cases impossible
        · cases impossible
    | joined =>
        rcases lists_of_joinPrograms joined with ⟨first, second, listsFirst, listsSecond, -⟩
        rcases answered with rfl | rfl
        · exact isUsable_of_lists listsFirst
        · exact isUsable_of_lists listsSecond
  · intro usable
    by_cases answered : ∃ result, classic = .ok result ∨ extended = .ok result
    · have first := outcomeAccounts_of_isUsable fun result same => usable result (.inl same)
      have second := outcomeAccounts_of_isUsable fun result same => usable result (.inr same)
      rw [joinPrograms_of_answered answered, first, ok_bind, second, ok_bind]
      exact .joined answered (sifts_readAccounts _) (sifts_readAccounts _)
    · cases classic with
      | ok result =>
          exact absurd ⟨result, .inl rfl⟩ answered
      | error fault =>
          cases extended with
          | ok result =>
              exact absurd ⟨result, .inr rfl⟩ answered
          | error other =>
              exact .failed fault other

/-! ## Asking both programs -/

/-- What became of the two calls, and of the question that they were made for. -/
structure ProgramRuns where
  classic : Except Fault Json
  extended : Except Fault Json
  accounts : Except Fault (List AccountEntry)

/-- The calls for both programs, the second after the first. -/
def programRuns
    (node : SolanaNode)
    (transport : Transport)
    (address : Json)
    (network : Network)
    (log : Log) :
    ProgramRuns :=
  let classic := node.programRun transport address tokenProgram network log
  { classic := classic.1
    extended := (node.programRun transport address extendedTokenProgram network classic.2).1
    accounts := ((node.tokenAccounts transport address).run network log).1 }

/-- Neither program keeps the accounts of the other from being told. -/
def ProgramRuns.AreIndependent
    (runs : ProgramRuns) :
    Prop :=
  EndsIndependently runs.classic runs.extended runs.accounts

/--
With any network, the token programs fail independently exactly when every answer that came is an
object whose value, if it is there, can be gone through.
-/
theorem programRuns_areIndependent_iff
    (node : SolanaNode)
    (transport : Transport)
    (address : Json)
    (network : Network)
    (log : Log) :
    (programRuns node transport address network log).AreIndependent ↔
      ∀ result,
        (programRuns node transport address network log).classic = .ok result ∨
            (programRuns node transport address network log).extended = .ok result →
          IsUsable result := by
  have accounts : (programRuns node transport address network log).accounts =
      SolanaNode.joinPrograms (programRuns node transport address network log).classic
        (programRuns node transport address network log).extended :=
    rfl
  rw [ProgramRuns.AreIndependent, accounts]
  exact endsIndependently_joinPrograms_iff

/-- A network that lists an account for the classic program, and null for the extended one. -/
def halfNetwork : Network := fun earlier _ =>
  if earlier.isEmpty then
    .value (.object [("result", .object [("value", .array [sevenUnits])])])
  else
    .value (.object [("result", .null)])

/-- What becomes of the calls when this network is asked about a wallet. -/
def halfRuns : ProgramRuns :=
  programRuns (.standard "https://node") .standard (.text "B") halfNetwork .empty

theorem not_areIndependent_halfRuns :
    halfRuns.classic = .ok (.object [("value", .array [sevenUnits])]) ∧
      ¬ halfRuns.AreIndependent := by
  have classic : halfRuns.classic = .ok (.object [("value", .array [sevenUnits])]) := rfl
  have accounts : halfRuns.accounts = .error .noMembers := rfl
  refine ⟨classic, ?_⟩
  rw [ProgramRuns.AreIndependent, accounts, classic]
  rintro ⟨⟩

end Holdings.Backend
