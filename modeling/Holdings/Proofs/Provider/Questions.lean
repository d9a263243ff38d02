import Holdings.Proofs.Backend.Questions
import Holdings.Proofs.Provider.Alike
import Holdings.Proofs.Provider.Balances

/-!
# Questions to providers

A provider lacks a source for a tier or has a backend for it.  In the first case
it says so without asking anybody.  In the second case it asks the network, for
an estimate once the transaction is ready.
-/

namespace Holdings.Provider

open Fetch

variable {α : Type} {provider built : Provider} {tier : Tier} {backend : Backend}

/-! ## Jobs for a backend -/

theorem withBackend_of_error
    {fault : Fault}
    (refused : provider.backendOf tier = .error fault)
    (job : Backend → Fetch (α × Backend)) :
    provider.withBackend tier job = pure (.error fault, provider) := by
  rw [withBackend, refused]

theorem returns_withBackend
    (provider : Provider)
    (tier : Tier)
    (job : Backend → Fetch (α × Backend)) :
    (provider.withBackend tier job).Returns := by
  intro network log
  rcases provider.exists_run_withBackend tier job network log with
    ⟨outcome, later, grown, ended⟩
  exact ⟨(outcome, later), grown, ended⟩

theorem asks_withBackend
    (found : provider.backendOf tier = .ok (backend, built))
    {job : Backend → Fetch (α × Backend)}
    (asks : (job backend).Asks) :
    (provider.withBackend tier job).Asks := by
  rw [withBackend, found]
  apply asks.attempt.bind
  intro outcome
  cases outcome with
  | ok value =>
      exact Within.pure _
  | error fault =>
      exact Within.pure _

theorem asks_unchanged
    {job : Backend → Fetch α}
    (asks : (job backend).Asks) :
    (unchanged job backend).Asks := by
  apply asks.bind
  intro value
  exact Within.pure _

/-! ## Balances -/

theorem returns_balances
    (provider : Provider)
    (address tier : Json) :
    (provider.balances address tier).Returns := by
  intro network log
  rcases provider.exists_run_tryBalances address tier network log with
    ⟨outcome, later, grown, attempted, -⟩
  exact ⟨_, _, run_balances attempted⟩

/-! ## The price of gas -/

theorem gasPrice_of_error
    {fault : Fault}
    (refused : provider.backendOf tier = .error fault) :
    provider.gasPrice (.text tier.name) = pure (.error fault, provider) := by
  rw [gasPrice, Tier.read_name]
  dsimp only
  rw [withBackend_of_error refused]
  rfl

theorem consults_gasPrice
    (found : provider.backendOf tier = .ok (backend, built)) :
    (provider.gasPrice (.text tier.name)).Consults := by
  rw [gasPrice, Tier.read_name]
  apply Consults.of_asks
  · apply (provider.returns_withBackend tier _).bind
    intro answered
    exact Returns.pure _
  · apply Asks.bind
    · exact asks_withBackend found (asks_unchanged (backend.asks_fees _))
    · intro answered
      exact Within.pure _

/-! ## Estimates -/

theorem estimateGas_of_error
    {fault : Fault}
    (refused : provider.backendOf tier = .error fault)
    (transaction : Json) :
    provider.estimateGas transaction (.text tier.name) = pure (.error fault, provider) := by
  rw [estimateGas, Tier.read_name]
  exact withBackend_of_error refused _

/-- A transaction that cannot be made ready is refused without a call. -/
theorem estimateGas_of_unready
    (found : provider.backendOf tier = .ok (backend, built))
    {transaction : Json}
    {fault : Fault}
    (unready : backend.prepare transaction = .error fault) :
    provider.estimateGas transaction (.text tier.name) = pure (.error fault, built) := by
  rw [estimateGas, Tier.read_name]
  simp only [withBackend, found, unchanged, backend.estimate_eq, unready]
  rfl

theorem consults_estimateGas
    (found : provider.backendOf tier = .ok (backend, built))
    {transaction : Json}
    {params : List Json}
    (ready : backend.prepare transaction = .ok params) :
    (provider.estimateGas transaction (.text tier.name)).Consults := by
  rw [estimateGas, Tier.read_name]
  apply Consults.of_asks
  · exact provider.returns_withBackend tier _
  · apply asks_withBackend found
    apply asks_unchanged
    rw [backend.estimate_eq, ready]
    exact backend.asks_askEstimate _ _ _

/-! ## Calls that are passed on -/

theorem callMethod_eq
    (provider : Provider)
    (tier : Tier)
    (method : String)
    (params : Json) :
    provider.callMethod method params (.text tier.name) = (do
      let endpoint ← provider.baseUrl tier
      provider.transport.rpc endpoint method (params.orElse (.array []))) := by
  rw [callMethod, Tier.read_name]
  rfl

theorem attempt_callMethod_of_error
    {fault : Fault}
    (refused : provider.baseUrl tier = .error fault)
    (method : String)
    (params : Json) :
    (provider.callMethod method params (.text tier.name)).attempt = pure (.error fault) := by
  rw [callMethod_eq, refused]
  rfl

theorem asks_callMethod
    {endpoint : String}
    (found : provider.baseUrl tier = .ok endpoint)
    (method : String)
    (params : Json) :
    (provider.callMethod method params (.text tier.name)).Asks := by
  rw [callMethod_eq, found]
  exact provider.transport.asks_rpc _ _ _

/-- Whether an endpoint is well can be told in every run. -/
theorem returns_checkHealth
    (provider : Provider)
    (tier : Json) :
    (provider.checkHealth tier).Returns := by
  apply (Returns.attempt _).bind
  intro answered
  cases answered with
  | ok value =>
      exact Returns.pure _
  | error fault =>
      apply (Returns.record _).bind
      intro _
      exact Returns.pure _

/-! ## Providers that were built alike -/

namespace Alike

variable
  {left right : Provider}
  {accounted : FaultClass → Prop}

theorem gasPrice
    (alike : left.Alike right)
    (tier : Tier)
    (configuration : accounted .configuration) :
    Fetch.Alike accounted
      (left.gasPrice (.text tier.name)) (right.gasPrice (.text tier.name)) := by
  rcases alike.backendOf tier with
    ⟨fault, leftRefused, rightRefused, kind⟩ |
      ⟨leftBackend, leftBuilt, rightBackend, rightBuilt, leftOpened, rightOpened, -⟩
  · apply Fetch.Alike.of_fault
    · exact gasPrice_of_error leftRefused
    · exact gasPrice_of_error rightRefused
    · rw [kind]
      exact configuration
  · apply Fetch.Alike.consulting
    · exact consults_gasPrice leftOpened
    · exact consults_gasPrice rightOpened

/-- An estimate is refused for a missing source, or for a transaction that cannot be ready. -/
theorem estimateGas
    (alike : left.Alike right)
    (tier : Tier)
    {transaction : Json}
    (isTransaction : transaction.IsTransaction)
    (configuration : accounted .configuration)
    (value : accounted .value) :
    Fetch.Alike accounted
      (left.estimateGas transaction (.text tier.name))
      (right.estimateGas transaction (.text tier.name)) := by
  rcases alike.backendOf tier with
    ⟨fault, leftRefused, rightRefused, kind⟩ |
      ⟨leftBackend, leftBuilt, rightBackend, rightBuilt, leftOpened, rightOpened, same⟩
  · apply Fetch.Alike.of_fault
    · exact estimateGas_of_error leftRefused transaction
    · exact estimateGas_of_error rightRefused transaction
    · rw [kind]
      exact configuration
  · have samePrepared : leftBackend.prepare transaction = rightBackend.prepare transaction := by
      rw [← leftBackend.prepare_withoutCache, same, rightBackend.prepare_withoutCache]
    cases prepared : rightBackend.prepare transaction with
    | error fault =>
        apply Fetch.Alike.of_fault
        · exact estimateGas_of_unready leftOpened (samePrepared.trans prepared)
        · exact estimateGas_of_unready rightOpened prepared
        · rw [rightBackend.failsOnlyWith_prepare isTransaction fault prepared]
          exact value
    | ok params =>
        apply Fetch.Alike.consulting
        · exact consults_estimateGas leftOpened (samePrepared.trans prepared)
        · exact consults_estimateGas rightOpened prepared

end Alike

end Holdings.Provider
