import Holdings.Proofs.Backend.Calls
import Mathlib.Data.List.Forall2

/-!
# Runs of independent parts

The parts of a question run one after the other and cannot stop each other: what
comes out are their own outcomes, and behind their logs one warning for each
that failed.
-/

namespace Holdings.Backend

open Fetch

variable {α β γ : Type}

/-! ## Warnings -/

/-- A warning that a part of the balances of a wallet failed. -/
def IsPartWarning
    (chain : ChainId)
    (tier : Tier)
    (event : Event) :
    Prop :=
  ∃ part fault, event = partEvent chain tier part fault

/-- An error is recorded alike whether it is wrapped or not: what is wrapped always has a text. -/
theorem slotEvent_eq
    (chain : ChainId)
    (tier : Tier)
    (slot : String)
    (fault : Fault) :
    slotEvent chain tier slot fault = partEvent chain tier slot fault := by
  have spoken (error : Wording) : (partialError error).summary = error.summary :=
    if_neg error.summary_ne
  simp only [slotEvent, partEvent, warning, Event.ofError, spoken]

theorem isPartWarning_partEvent
    (chain : ChainId)
    (tier : Tier)
    (part : String)
    (fault : Fault) :
    IsPartWarning chain tier (partEvent chain tier part fault) :=
  ⟨part, fault, rfl⟩

theorem isPartWarning_slotEvent
    (chain : ChainId)
    (tier : Tier)
    (slot : String)
    (fault : Fault) :
    IsPartWarning chain tier (slotEvent chain tier slot fault) :=
  ⟨slot, fault, slotEvent_eq chain tier slot fault⟩

/-- The event of an outcome, if it failed. -/
def failureEvents
    (event : Fault → Event)
    (outcome : Except Fault α) :
    List Event :=
  match outcome with
  | .ok _ => []
  | .error fault => [event fault]

/-- The warning about a part, if it failed. -/
def partWarnings
    (chain : ChainId)
    (tier : Tier)
    (part : String)
    (outcome : Except Fault α) :
    List Event :=
  failureEvents (partEvent chain tier part) outcome

theorem failureEvents_slotEvent
    (chain : ChainId)
    (tier : Tier)
    (slot : String)
    (outcome : Except Fault α) :
    failureEvents (slotEvent chain tier slot) outcome = partWarnings chain tier slot outcome := by
  rw [partWarnings, funext (slotEvent_eq chain tier slot)]

theorem run_settle
    (event : Fault → Event)
    (outcome : Except Fault α)
    (network : Network)
    (log : Log) :
    (settle event outcome).run network log =
      (.ok outcome.toOption, { log with events := log.events ++ failureEvents event outcome }) := by
  cases outcome with
  | ok value =>
      simp [settle, failureEvents, Except.toOption]
  | error fault =>
      rfl

theorem within_settle
    {calls : Call → Prop}
    {events : Event → Prop}
    {event : Fault → Event}
    (counted : ∀ fault, events (event fault))
    (outcome : Except Fault α) :
    (settle event outcome).Within calls events := by
  cases outcome with
  | ok value =>
      exact Within.pure _
  | error fault =>
      apply Within.bind
      · exact Within.record (counted fault)
      · intro nothing
        exact Within.pure _

/-! ## The three parts of the balances -/

/-- Each part runs with the log that the one before it left. -/
theorem run_fetchSlots
    (chain : ChainId)
    (tier : Tier)
    (native : Fetch α)
    (tokens : Fetch β)
    (nfts : Fetch γ)
    (network : Network)
    (log : Log) :
    (fetchSlots chain tier native tokens nfts).run network log =
      let nativeRun := native.run network log
      let tokensRun := tokens.run network nativeRun.2
      let nftsRun := nfts.run network tokensRun.2
      (.ok ⟨nativeRun.1.toOption, tokensRun.1.toOption, nftsRun.1.toOption⟩,
        { calls := nftsRun.2.calls
          events := nftsRun.2.events ++ partWarnings chain tier "native" nativeRun.1 ++
            partWarnings chain tier "tokens" tokensRun.1 ++
            partWarnings chain tier "nfts" nftsRun.1 }) := by
  simp only [fetchSlots, run_bind, run_attempt, run_settle, run_pure, failureEvents_slotEvent]

theorem within_fetchSlots
    {calls : Call → Prop}
    (chain : ChainId)
    (tier : Tier)
    {native : Fetch α}
    {tokens : Fetch β}
    {nfts : Fetch γ}
    (nativeWithin : native.Within calls (IsPartWarning chain tier))
    (tokensWithin : tokens.Within calls (IsPartWarning chain tier))
    (nftsWithin : nfts.Within calls (IsPartWarning chain tier)) :
    (fetchSlots chain tier native tokens nfts).Within calls (IsPartWarning chain tier) := by
  apply Within.bind (Within.attempt nativeWithin)
  intro nativeOutcome
  apply Within.bind (Within.attempt tokensWithin)
  intro tokensOutcome
  apply Within.bind (Within.attempt nftsWithin)
  intro nftsOutcome
  apply Within.bind (within_settle (isPartWarning_slotEvent chain tier _) _)
  intro nativeValue
  apply Within.bind (within_settle (isPartWarning_slotEvent chain tier _) _)
  intro tokensValue
  apply Within.bind (within_settle (isPartWarning_slotEvent chain tier _) _)
  intro nftsValue
  exact Within.pure _

/-! ## Look-ups of many items -/

theorem within_attemptEach
    {calls : Call → Prop}
    {events : Event → Prop}
    {lookup : α → Fetch β}
    (each : ∀ item, (lookup item).Within calls events)
    (items : List α) :
    (attemptEach lookup items).Within calls events := by
  induction items with
  | nil =>
      exact Within.pure _
  | cons item rest induction =>
      apply Within.bind (Within.attempt (each item))
      intro outcome
      apply Within.bind induction
      intro outcomes
      exact Within.pure _

theorem within_settleEach
    {calls : Call → Prop}
    {events : Event → Prop}
    {event : Fault → Event}
    (counted : ∀ fault, events (event fault))
    (outcomes : List (Except Fault α)) :
    (settleEach event outcomes).Within calls events := by
  induction outcomes with
  | nil =>
      exact Within.pure _
  | cons outcome rest induction =>
      apply Within.bind (within_settle counted outcome)
      intro value
      apply Within.bind induction
      intro values
      exact Within.pure _

theorem within_fetchEach
    {calls : Call → Prop}
    (chain : ChainId)
    (tier : Tier)
    {lookup : α → Fetch β}
    (each : ∀ item, (lookup item).Within calls (IsPartWarning chain tier))
    (items : List α) :
    (fetchEach chain tier lookup items).Within calls (IsPartWarning chain tier) := by
  apply Within.bind (within_attemptEach each items)
  intro outcomes
  exact within_settleEach (isPartWarning_partEvent chain tier metadataPart) outcomes

/-- Every item has an outcome, which is that of a run of its own look-up. -/
theorem exists_run_attemptEach
    (lookup : α → Fetch β)
    (items : List α)
    (network : Network)
    (log : Log) :
    ∃ outcomes later,
      (attemptEach lookup items).run network log = (.ok outcomes, later) ∧
        List.Forall₂
          (fun item outcome => ∃ before, outcome = ((lookup item).run network before).1)
          items outcomes := by
  induction items generalizing log with
  | nil =>
      exact ⟨[], log, rfl, .nil⟩
  | cons item rest induction =>
      rcases induction ((lookup item).run network log).2 with
        ⟨outcomes, later, attempted, own⟩
      refine ⟨((lookup item).run network log).1 :: outcomes, later, ?_, .cons ⟨log, rfl⟩ own⟩
      simp only [attemptEach, run_bind, run_attempt, attempted, run_pure]

theorem run_settleEach
    (event : Fault → Event)
    (outcomes : List (Except Fault α))
    (network : Network)
    (log : Log) :
    (settleEach event outcomes).run network log =
      (.ok (outcomes.map Except.toOption),
        { log with events := log.events ++ outcomes.flatMap (failureEvents event) }) := by
  induction outcomes generalizing log with
  | nil =>
      simp [settleEach]
  | cons outcome rest induction =>
      simp only [settleEach, run_bind, run_settle, induction, run_pure, List.map_cons,
        List.flatMap_cons, List.append_assoc]

/--
Look-ups may fail one by one, but together they always give one value for each item, which is
there if the look-up of the item came to one.
-/
theorem exists_run_fetchEach
    (chain : ChainId)
    (tier : Tier)
    (lookup : α → Fetch β)
    (items : List α)
    (network : Network)
    (log : Log) :
    ∃ values later,
      (fetchEach chain tier lookup items).run network log = (.ok values, later) ∧
        List.Forall₂
          (fun item value =>
            ∃ before, value = ((lookup item).run network before).1.toOption)
          items values := by
  rcases exists_run_attemptEach lookup items network log with
    ⟨outcomes, later, attempted, own⟩
  have settled := run_settleEach (partEvent chain tier metadataPart) outcomes network later
  refine ⟨outcomes.map Except.toOption,
    { later with
      events := later.events ++ outcomes.flatMap (partWarnings chain tier metadataPart) }, ?_, ?_⟩
  · rw [fetchEach, run_bind, attempted]
    exact settled
  · rw [List.forall₂_map_right_iff]
    apply own.imp
    rintro item outcome ⟨before, rfl⟩
    exact ⟨before, rfl⟩

end Holdings.Backend
