import Holdings.Proofs.Provider.Questions
import Holdings.Proofs.Registry.Growth

/-!
# Questions to registries

A question to a registry goes to the provider of a key and puts back what has
become of it.  The registry grows by it and stays what it started as, and
registries with the same start are alike in all their questions.
-/

namespace Holdings.Registry

open Fetch

variable {α : Type} {registry later : Registry} {key : ChainKey} {name : String}

/-! ## Where a question goes -/

theorem withProvider_of_error
    (named : key.name = .ok name)
    {fault : Fault}
    (refused : registry.resolve key = .error fault)
    (question : Provider → Fetch (Except Fault α × Provider)) :
    registry.withProvider key question = pure (.error fault, registry) := by
  rw [withProvider, refused, named]

theorem withProvider_of_ok
    (named : key.name = .ok name)
    {provider : Provider}
    {resolved : Registry}
    (found : registry.resolve key = .ok (provider, resolved))
    (question : Provider → Fetch (Except Fault α × Provider)) :
    registry.withProvider key question = (do
      let (outcome, later) ← question provider
      return (outcome, resolved.put name later)) := by
  rw [withProvider, found, named]

/-! ## Registries with the same start -/

namespace Alike

variable {start left right : Registry} {accounted : FaultClass → Prop}

/-- A question that is alike for providers that were built alike is alike for the registries. -/
theorem withProvider
    (alike : start.Alike left right)
    (named : key.name = .ok name)
    {question : Provider → Fetch (Except Fault α × Provider)}
    (unsupportedChain : accounted .unsupportedChain)
    (each : ∀ leftProvider rightProvider : Provider,
      leftProvider.Alike rightProvider →
        Fetch.Alike accounted (question leftProvider) (question rightProvider)) :
    Fetch.Alike accounted
      (left.withProvider key question) (right.withProvider key question) := by
  rcases alike.resolve named with
    ⟨fault, leftRefused, rightRefused, kind⟩ |
      ⟨leftProvider, leftLater, rightProvider, rightLater, leftFound, rightFound, built, -⟩
  · apply Fetch.Alike.of_fault
    · exact withProvider_of_error named leftRefused question
    · exact withProvider_of_error named rightRefused question
    · rw [kind]
      exact unsupportedChain
  · rw [withProvider_of_ok named leftFound, withProvider_of_ok named rightFound]
    exact (each leftProvider rightProvider built).keep _ _

theorem balances
    (alike : start.Alike left right)
    (named : key.name = .ok name)
    (address tier : Json)
    (unsupportedChain : accounted .unsupportedChain) :
    Fetch.Alike accounted
      (left.balances key address tier) (right.balances key address tier) := by
  apply alike.withProvider named unsupportedChain
  intro leftProvider rightProvider _
  apply Fetch.Alike.consulting
  · exact Consults.of_ok (leftProvider.returns_balances address tier) id
  · exact Consults.of_ok (rightProvider.returns_balances address tier) id

theorem gasPrice
    (alike : start.Alike left right)
    (named : key.name = .ok name)
    (tier : Tier)
    (unsupportedChain : accounted .unsupportedChain)
    (configuration : accounted .configuration) :
    Fetch.Alike accounted
      (left.gasPrice key (.text tier.name)) (right.gasPrice key (.text tier.name)) := by
  apply alike.withProvider named unsupportedChain
  intro leftProvider rightProvider built
  exact built.gasPrice tier configuration

theorem estimateGas
    (alike : start.Alike left right)
    (named : key.name = .ok name)
    (tier : Tier)
    {transaction : Json}
    (isTransaction : transaction.IsTransaction)
    (unsupportedChain : accounted .unsupportedChain)
    (configuration : accounted .configuration)
    (value : accounted .value) :
    Fetch.Alike accounted
      (left.estimateGas key transaction (.text tier.name))
      (right.estimateGas key transaction (.text tier.name)) := by
  apply alike.withProvider named unsupportedChain
  intro leftProvider rightProvider built
  exact built.estimateGas tier isTransaction configuration value

/-- Providers of a registry pass calls on, so nobody is refused for that. -/
theorem withExposed
    (alike : start.Alike left right)
    (named : key.name = .ok name)
    {question : Provider → Fetch α}
    (unsupportedChain : accounted .unsupportedChain)
    (each : ∀ leftProvider rightProvider : Provider,
      leftProvider.Alike rightProvider →
        Fetch.Alike accounted
          ((question leftProvider).attempt >>= fun outcome => pure (outcome, leftProvider))
          ((question rightProvider).attempt >>= fun outcome => pure (outcome, rightProvider))) :
    Fetch.Alike accounted
      (left.withExposed key question) (right.withExposed key question) := by
  apply alike.withProvider named unsupportedChain
  intro leftProvider rightProvider built
  rw [if_pos built.leftRouted.exposesCalls, if_pos built.rightRouted.exposesCalls]
  exact each leftProvider rightProvider built

theorem callMethod
    (alike : start.Alike left right)
    (named : key.name = .ok name)
    (method : String)
    (params : Json)
    (tier : Tier)
    (unsupportedChain : accounted .unsupportedChain)
    (configuration : accounted .configuration) :
    Fetch.Alike accounted
      (left.callMethod key method params (.text tier.name))
      (right.callMethod key method params (.text tier.name)) := by
  apply alike.withExposed named unsupportedChain
  intro leftProvider rightProvider built
  have sameUrl := built.baseUrl tier
  cases opened : rightProvider.baseUrl tier with
  | error fault =>
      rw [opened] at sameUrl
      apply Fetch.Alike.of_fault
      · rw [Provider.attempt_callMethod_of_error sameUrl]
        rfl
      · rw [Provider.attempt_callMethod_of_error opened]
        rfl
      · rw [Provider.kind_of_baseUrl opened]
        exact configuration
  | ok endpoint =>
      rw [opened] at sameUrl
      have consults {provider : Provider} (found : provider.baseUrl tier = .ok endpoint) :
          ((provider.callMethod method params (.text tier.name)).attempt >>= fun outcome =>
            (pure (outcome, provider) :
              Fetch (Except Fault Json × Provider))).Consults := by
        apply Consults.of_asks
        · apply (Returns.attempt _).bind
          intro outcome
          exact Returns.pure _
        · apply (Provider.asks_callMethod found method params).attempt.bind
          intro outcome
          exact Within.pure _
      exact .consulting (consults sameUrl) (consults opened)

theorem checkHealth
    (alike : start.Alike left right)
    (named : key.name = .ok name)
    (tier : Json)
    (unsupportedChain : accounted .unsupportedChain) :
    Fetch.Alike accounted (left.checkHealth key tier) (right.checkHealth key tier) := by
  apply alike.withExposed named unsupportedChain
  intro leftProvider rightProvider _
  apply Fetch.Alike.consulting
  · exact Consults.of_attempt (leftProvider.returns_checkHealth tier) _
  · exact Consults.of_attempt (rightProvider.returns_checkHealth tier) _

end Alike

/-! ## Questions that absorb faults -/

theorem absorbs_withProvider
    (registry : Registry)
    (key : ChainKey)
    {question : Provider → Fetch (Except Fault α × Provider)}
    (each : ∀ provider, (question provider).Absorbs) :
    (registry.withProvider key question).Absorbs := by
  unfold withProvider
  split
  · exact (each _).keep _
  · exact Absorbs.pure _ _
  · exact Absorbs.pure _ _

theorem absorbs_balances
    (registry : Registry)
    (key : ChainKey)
    (address tier : Json) :
    (registry.balances key address tier).Absorbs := by
  apply registry.absorbs_withProvider key
  intro provider
  exact Absorbs.of_ok (provider.balances address tier) id

theorem absorbs_checkHealth
    (registry : Registry)
    (key : ChainKey)
    (tier : Json) :
    (registry.checkHealth key tier).Absorbs := by
  apply registry.absorbs_withProvider key
  intro provider
  split
  · exact Absorbs.of_attempt (provider.returns_checkHealth tier) _
  · exact Absorbs.pure _ _

/-! ## What a question leaves behind -/

/-- A question that is a step of its provider lets the registry grow. -/
theorem GrowsFrom.withProvider
    {start : Registry}
    (grows : start.GrowsFrom registry)
    (named : key.name = .ok name)
    {question : Provider → Fetch (Except Fault α × Provider)}
    {network : Network}
    {log grown : Log}
    {outcome : Except Fault α}
    (steps : ∀ provider kept,
      (question provider).run network log = (.ok (outcome, kept), grown) →
        provider.Becomes kept)
    (ended : (registry.withProvider key question).run network log =
      (.ok (outcome, later), grown)) :
    start.GrowsFrom later := by
  rcases grows.resolve named with
    ⟨fault, refused, -⟩ | ⟨provider, resolved, found, ⟨routed, built⟩, still⟩
  · rw [withProvider_of_error named refused] at ended
    cases ended
    exact grows
  · rw [withProvider_of_ok named found] at ended
    rcases bind_run_eq_ok ended with ⟨⟨result, kept⟩, between, questioned, rest⟩
    cases rest
    have becomes := steps provider kept questioned
    rw [← becomes.bare_eq] at built
    exact still.put ⟨routed.becomes becomes, built⟩

namespace GrowsFrom

variable {start : Registry} {network : Network} {log grown : Log} {tier : Json}

theorem balances
    (grows : start.GrowsFrom registry)
    (named : key.name = .ok name)
    {address : Json}
    {outcome : Except Fault Balances}
    (ended : (registry.balances key address tier).run network log =
      (.ok (outcome, later), grown)) :
    start.GrowsFrom later := by
  apply grows.withProvider named _ ended
  intro provider kept questioned
  rcases bind_run_eq_ok questioned with ⟨⟨answer, left⟩, between, answered, rest⟩
  cases rest
  exact Provider.becomes_balances answered

theorem gasPrice
    (grows : start.GrowsFrom registry)
    (named : key.name = .ok name)
    {outcome : Except Fault String}
    (ended : (registry.gasPrice key tier).run network log = (.ok (outcome, later), grown)) :
    start.GrowsFrom later := by
  apply grows.withProvider named _ ended
  intro provider kept questioned
  exact Provider.becomes_gasPrice questioned

theorem estimateGas
    (grows : start.GrowsFrom registry)
    (named : key.name = .ok name)
    {transaction : Json}
    {outcome : Except Fault String}
    (ended : (registry.estimateGas key transaction tier).run network log =
      (.ok (outcome, later), grown)) :
    start.GrowsFrom later := by
  apply grows.withProvider named _ ended
  intro provider kept questioned
  exact Provider.becomes_estimateGas questioned

theorem withExposed
    (grows : start.GrowsFrom registry)
    (named : key.name = .ok name)
    {question : Provider → Fetch α}
    {outcome : Except Fault α}
    (ended : (registry.withExposed key question).run network log =
      (.ok (outcome, later), grown)) :
    start.GrowsFrom later := by
  apply grows.withProvider named _ ended
  intro provider kept questioned
  split at questioned
  · rcases bind_run_eq_ok questioned with ⟨answer, between, answered, rest⟩
    cases rest
    exact .unchanged
  · cases questioned
    exact .unchanged

end GrowsFrom

end Holdings.Registry
