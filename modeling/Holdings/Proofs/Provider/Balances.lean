import Holdings.Proofs.Backend.Balances
import Holdings.Proofs.Balances.WellFormed
import Holdings.Provider

/-!
# Balances never fail

A provider gives an answer to every question about balances, and the answer is
well formed.  When something went wrong on the way that no part of the balances
could absorb, the answer is the empty wallet and one error is recorded;
otherwise no error is recorded at all.
-/

namespace Holdings.Provider

open Fetch

variable {α : Type} {calls : Call → Prop} {events : Event → Prop}

/-! ## Jobs for a backend -/

/-- A job that comes to a value gives it, and what it makes of the backend is kept. -/
theorem run_withBackend_of_ok
    {provider built : Provider}
    {tier : Tier}
    {backend kept : Backend}
    (found : provider.backendOf tier = .ok (backend, built))
    {job : Backend → Fetch (α × Backend)}
    {value : α}
    {network : Network}
    {log grown : Log}
    (ended : (job backend).run network log = (.ok (value, kept), grown)) :
    (provider.withBackend tier job).run network log =
      (.ok (.ok value, built.keep tier kept), grown) := by
  rw [withBackend, found]
  simp only [run_bind, run_attempt, ended, run_pure]

/-- A job that fails is the failure of the whole. -/
theorem run_withBackend_of_error
    {provider built : Provider}
    {tier : Tier}
    {backend : Backend}
    (found : provider.backendOf tier = .ok (backend, built))
    {job : Backend → Fetch (α × Backend)}
    {fault : Fault}
    {network : Network}
    {log grown : Log}
    (failed : (job backend).run network log = (.error fault, grown)) :
    (provider.withBackend tier job).run network log = (.ok (.error fault, built), grown) := by
  rw [withBackend, found]
  simp only [run_bind, run_attempt, failed, run_pure]

/-- A job with a backend may fail, but the failure is a value. -/
theorem exists_run_withBackend
    (provider : Provider)
    (tier : Tier)
    (job : Backend → Fetch (α × Backend))
    (network : Network)
    (log : Log) :
    ∃ outcome later grown,
      (provider.withBackend tier job).run network log = (.ok (outcome, later), grown) := by
  cases found : provider.backendOf tier with
  | error fault =>
      refine ⟨.error fault, provider, log, ?_⟩
      rw [withBackend, found]
      rfl
  | ok built =>
      rcases built with ⟨backend, later⟩
      cases ended : (job backend).run network log with
      | mk outcome grown =>
          cases outcome with
          | error fault =>
              exact ⟨_, _, _, run_withBackend_of_error found ended⟩
          | ok value =>
              exact ⟨_, _, _, run_withBackend_of_ok found ended⟩

/-- The calls to the addresses of the backend of a tier. -/
def Reaches
    (provider : Provider)
    (tier : Json)
    (call : Call) :
    Prop :=
  ∃ named backend built,
    Tier.read tier = .ok named ∧
      provider.backendOf named = .ok (backend, built) ∧
        backend.Reaches provider.transport call

/-- What bounds the job with the backend of a tier bounds the whole. -/
theorem within_withBackend
    {provider : Provider}
    {tier : Tier}
    {job : Backend → Fetch (α × Backend)}
    (each : ∀ backend built,
      provider.backendOf tier = .ok (backend, built) →
        (job backend).Within calls events) :
    (provider.withBackend tier job).Within calls events := by
  unfold withBackend
  cases found : provider.backendOf tier with
  | error fault =>
      exact Within.pure _
  | ok built =>
      apply Within.bind (Within.attempt (each built.1 built.2 found))
      intro outcome
      cases outcome with
      | error fault =>
          exact Within.pure _
      | ok value =>
          exact Within.pure _

/-! ## Questions about balances -/

theorem exists_run_tryBalances
    (provider : Provider)
    (address tier : Json)
    (network : Network)
    (log : Log) :
    ∃ outcome later grown,
      (provider.tryBalances address tier).run network log = (.ok (outcome, later), grown) ∧
        (outcome.toOption.getD .zero).IsWellFormed provider.rendering.convertUnits := by
  have zero := Balances.isWellFormed_zero provider.rendering.convertUnits
  unfold tryBalances
  cases Tier.read tier with
  | error fault =>
      exact ⟨.error fault, provider, log, rfl, zero⟩
  | ok named =>
      rcases provider.exists_run_withBackend named
          (fun backend => backend.balances provider.transport provider.chain.id address named)
          network log with
        ⟨payload, later, grown, ended⟩
      simp only [run_bind, ended, run_pure]
      refine ⟨_, later, grown, rfl, ?_⟩
      cases rendered : (payload >>= fun payload =>
          provider.rendering.balances payload provider.chain.config) with
      | error fault =>
          exact zero
      | ok balances =>
          rcases Outcome.bind_eq_ok.1 rendered with ⟨content, -, balancesRendered⟩
          exact Rendering.isWellFormed_balances balancesRendered

theorem within_tryBalances
    (provider : Provider)
    (address tier : Json) :
    (provider.tryBalances address tier).Within (provider.Reaches tier)
      (fun event => event.severity = .warning) := by
  unfold tryBalances
  cases meant : Tier.read tier with
  | error fault =>
      exact Within.pure _
  | ok named =>
      apply Within.bind
      · apply within_withBackend
        intro backend built found
        apply (backend.within_balances provider.transport provider.chain.id address named).mono
        · intro call reached
          exact ⟨named, backend, built, meant, found, reached⟩
        · rintro event ⟨part, fault, rfl⟩
          rfl
      · intro ended
        exact Within.pure _

/-- The error that is recorded when balances come to a fault. -/
def balanceErrors
    (provider : Provider)
    (tier : Json)
    (outcome : Except Fault Balances) :
    List Event :=
  match outcome with
  | .ok _ => []
  | .error fault => [provider.failureEvent .error tier "get_balances" fault]

theorem run_balances
    {provider later : Provider}
    {address tier : Json}
    {network : Network}
    {log grown : Log}
    {outcome : Except Fault Balances}
    (attempted : (provider.tryBalances address tier).run network log =
      (.ok (outcome, later), grown)) :
    (provider.balances address tier).run network log =
      (.ok (outcome.toOption.getD .zero, later),
        { grown with events := grown.events ++ provider.balanceErrors tier outcome }) := by
  rw [balances, run_bind, attempted]
  cases outcome with
  | ok balances =>
      simp [balanceErrors, Except.toOption]
  | error fault =>
      rfl

/--
Balances are always answered, and well formed.  They are those of the attempt, or of an empty
wallet if the attempt came to a fault; only then, and only once, is an error recorded.
-/
theorem balances_wellFormed
    (provider : Provider)
    (address tier : Json)
    (network : Network)
    (log : Log) :
    ∃ outcome later calls warnings,
      (provider.tryBalances address tier).run network log =
          (.ok (outcome, later), ⟨log.calls ++ calls, log.events ++ warnings⟩) ∧
        (provider.balances address tier).run network log =
          (.ok (outcome.toOption.getD .zero, later),
            ⟨log.calls ++ calls,
              log.events ++ warnings ++ provider.balanceErrors tier outcome⟩) ∧
        (∀ event ∈ warnings, event.severity = .warning) ∧
        (outcome.toOption.getD .zero).IsWellFormed provider.rendering.convertUnits := by
  rcases provider.exists_run_tryBalances address tier network log with
    ⟨outcome, later, grown, attempted, wellFormed⟩
  rcases (provider.within_tryBalances address tier).exists_added network log with
    ⟨calls, warnings, added, -, areWarnings⟩
  rw [attempted] at added
  have split : grown = ⟨log.calls ++ calls, log.events ++ warnings⟩ := added
  subst split
  exact ⟨outcome, later, calls, warnings, attempted, run_balances attempted, areWarnings,
    wellFormed⟩

end Holdings.Provider
