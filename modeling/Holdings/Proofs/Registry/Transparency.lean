import Holdings.Proofs.Provider.Twins
import Holdings.Proofs.Registry.Changes

/-!
# Queries between the operations of a service

A registry builds providers when it is merely asked which chains it serves, so a query
changes it.  What a key leads to stays the same all the while: the provider that is held,
or else the one that would be built, and these differ in their number at most.  Two
registries that lead alike serve every operation alike and lead alike afterwards, also
when a provider is put in by hand, so that queries in between are never noticed.
-/

namespace Holdings.Registry

open Fetch Outcome
open Provider (AnsweredAlike)

/-! ## Operations and queries -/

/-- What a service does through a registry. -/
inductive Operation where
  | balances (key : ChainKey) (address tier : Json)
  | gasPrice (key : ChainKey) (tier : Json)
  | estimateGas (key : ChainKey) (transaction tier : Json)
  | callMethod (key : ChainKey) (method : String) (params tier : Json)
  | checkHealth (key : ChainKey) (tier : Json)
  | register (key : ChainKey) (provider : Provider)
  | chainConfig (key : ChainKey)
deriving Inhabited

/-- What an operation is answered with. -/
inductive Answer where
  | balances (balances : Balances)
  | amount (written : String)
  | value (value : Json)
  | health (isWell : Bool)
  | registered
  | config (config : ChainConfig)

/-- What is asked of a registry in between. -/
inductive Query where
  | resolve (key : ChainKey)
  | isSupported (key : ChainKey)
  | chainConfig (key : ChainKey)
  | listChains
deriving Inhabited

/-- A query is a request that puts nothing in. -/
def Query.request : Query → Request
  | .resolve key => .resolve key
  | .isSupported key => .isSupported key
  | .chainConfig key => .chainConfig key
  | .listChains => .listChains

/-- An operation of the service, or a query in between. -/
inductive Step where
  | operation (operation : Operation)
  | query (query : Query)

/-- The operation that a step is, if it is one. -/
def Step.operation? : Step → Option Operation
  | .operation asked => some asked
  | .query _ => none

/-- Puts the answer to a question of one kind among the answers of all kinds. -/
def answering
    {α : Type}
    (answer : α → Answer)
    (question : Fetch (Except Fault α × Registry)) :
    Fetch (Except Fault Answer × Registry) := do
  let (outcome, later) ← question
  return (outcome.map answer, later)

/-- Does an operation; what is left are its answer and the registry afterwards. -/
def perform
    (registry : Registry) :
    Operation → Fetch (Except Fault Answer × Registry)
  | .balances key address tier => answering .balances (registry.balances key address tier)
  | .gasPrice key tier => answering .amount (registry.gasPrice key tier)
  | .estimateGas key transaction tier =>
    answering .amount (registry.estimateGas key transaction tier)
  | .callMethod key method params tier =>
    answering .value (registry.callMethod key method params tier)
  | .checkHealth key tier => answering .health (registry.checkHealth key tier)
  | .register key provider =>
    return registry.settle ((registry.register key provider).map (.registered, ·))
  | .chainConfig key => answering .config (return registry.settle (registry.chainConfig key))

/-- An operation with its answer, and with the calls and the events that came of it. -/
structure Served where
  operation : Operation
  outcome : Except Fault Answer
  calls : List Call
  events : List Event

/-- What has been served, and what the registry and the log became. -/
structure Run where
  served : List Served
  registry : Registry
  log : Log

/-- Takes steps one after the other. -/
def serve
    (registry : Registry)
    (network : Network)
    (log : Log) :
    List Step → Run
  | [] => ⟨[], registry, log⟩
  | .query query :: rest => serve (registry.handle query.request).2 network log rest
  | .operation operation :: rest =>
    let ended := (registry.perform operation).run network log
    let later := serve ((ended.1.map (·.2)).toOption.getD registry) network ended.2 rest
    { later with
      served :=
        ⟨operation, ended.1 >>= (·.1), ended.2.calls.drop log.calls.length,
          ended.2.events.drop log.events.length⟩ :: later.served }

/-! ## What keys lead to -/

/-- The provider to which a name leads, held already or built for it, without its number. -/
def leads
    (registry : Registry)
    (name : String) :
    Except Fault Provider :=
  match registry.find? name with
  | some provider => .ok (provider.withNumber 0)
  | none => (registry.enrol name).map fun enrolled => enrolled.1.withNumber 0

/-- Two registries that lead to the same providers under all names. -/
def LeadAlike
    (left right : Registry) :
    Prop :=
  ∀ name, left.leads name = right.leads name

/-- Two providers that differ in their number at most, from registries that lead alike. -/
def FoundAlike
    (left right : Provider × Registry) :
    Prop :=
  left.1.Twins right.1 ∧ left.2.LeadAlike right.2

/-- The same answer, from registries that lead alike. -/
def ServedAlike
    {α : Type}
    (left right : α × Registry) :
    Prop :=
  left.1 = right.1 ∧ left.2.LeadAlike right.2

/-- What would be built for a name does not depend on what is held already. -/
theorem map_enrol_put
    (registry : Registry)
    (key name : String)
    (provider : Provider)
    (next : Nat) :
    (({ registry.put key provider with next := next } : Registry).enrol name).map
        (fun enrolled => enrolled.1.withNumber 0) =
      (registry.enrol name).map fun enrolled => enrolled.1.withNumber 0 := by
  simp only [enrol, put]
  cases (ChainKey.spelled (.text name)).identify with
  | error fault =>
      rfl
  | ok chain =>
      simp only [ok_bind]
      cases registry.preferences.lookup chain with
      | none =>
          rfl
      | some services =>
          cases services <;> rfl

theorem leads_put
    (registry : Registry)
    (key name : String)
    (provider : Provider)
    (next : Nat) :
    ({ registry.put key provider with next := next } : Registry).leads name =
      if name = key then .ok (provider.withNumber 0) else registry.leads name := by
  have found :
      ({ registry.put key provider with next := next } : Registry).find? name =
        if name = key then some provider else registry.find? name :=
    find?_put registry key name provider
  unfold leads
  rw [found]
  by_cases same : name = key
  · rw [if_pos same, if_pos same]
  · rw [if_neg same, if_neg same, map_enrol_put]

/-- A provider that is held changes nothing when it is the one to which its key led anyway. -/
theorem leadAlike_put
    {registry : Registry}
    {key : String}
    {provider : Provider}
    (led : registry.leads key = .ok (provider.withNumber 0))
    (next : Nat) :
    ({ registry.put key provider with next := next } : Registry).LeadAlike registry := by
  intro name
  rw [leads_put]
  by_cases same : name = key
  · rw [if_pos same, same, led]
  · rw [if_neg same]

theorem eq_of_enrol
    {registry later : Registry}
    {name : String}
    {provider : Provider}
    (enrolled : registry.enrol name = .ok (provider, later)) :
    later = { registry.put name provider with next := registry.next + 1 } := by
  rw [enrol] at enrolled
  rcases bind_eq_ok.1 enrolled with ⟨chain, -, rest⟩
  dsimp only at rest
  split at rest
  · cases rest
  · rcases bind_eq_ok.1 rest with ⟨built, -, same⟩
    cases same
    rfl

/-- A key is resolved to what its name leads to, and all names lead to the same as before. -/
theorem leads_of_resolve
    (registry : Registry)
    {key : ChainKey}
    {name : String}
    (named : key.name = .ok name) :
    EndAlike (fun found led => found.1.withNumber 0 = led ∧ found.2.LeadAlike registry)
      (registry.resolve key) (registry.leads name) := by
  rw [resolve, named, ok_bind]
  cases found : registry.find? name with
  | some provider =>
      rw [leads, found]
      exact .ok ⟨rfl, fun _ => rfl⟩
  | none =>
      have led : registry.leads name =
          (registry.enrol name).map fun enrolled => enrolled.1.withNumber 0 := by
        rw [leads, found]
      cases enrolled : registry.enrol name with
      | error fault =>
          rw [led, enrolled]
          exact .error fault
      | ok built =>
          rcases built with ⟨provider, later⟩
          rw [enrolled] at led
          rw [led]
          refine .ok ⟨rfl, ?_⟩
          rw [eq_of_enrol enrolled]
          exact leadAlike_put led _

theorem leadAlike_resolve
    {registry later : Registry}
    {key : ChainKey}
    {provider : Provider}
    (resolved : registry.resolve key = .ok (provider, later)) :
    later.LeadAlike registry := by
  cases named : key.name with
  | error fault =>
      rw [resolve, named] at resolved
      cases resolved
  | ok name =>
      have ended := registry.leads_of_resolve named
      rw [resolved] at ended
      generalize registry.leads name = led at ended
      cases ended with
      | ok here =>
          exact here.2

/-! ## Queries -/

theorem leadAlike_settle_resolve
    (registry : Registry)
    (key : ChainKey) :
    (registry.settle (registry.resolve key)).2.LeadAlike registry := by
  cases resolved : registry.resolve key with
  | error fault =>
      exact fun _ => rfl
  | ok found =>
      exact leadAlike_resolve resolved

theorem leadAlike_summarize
    (chains : List Chain)
    (registry : Registry) :
    (summarize chains registry).2.LeadAlike registry := by
  induction chains generalizing registry with
  | nil =>
      exact fun _ => rfl
  | cons chain rest induction =>
      have first := leadAlike_settle_resolve registry (.member chain.id)
      rw [← settle_isSupported] at first
      rw [summarize]
      cases supported : registry.isSupported (.member chain.id) with
      | error fault =>
          exact fun _ => rfl
      | ok answered =>
          rw [supported] at first
          exact fun name => (induction answered.2 name).trans (first name)

/-- A query may build providers, but all names lead to the same afterwards. -/
theorem leadAlike_query
    (registry : Registry)
    (query : Query) :
    (registry.handle query.request).2.LeadAlike registry := by
  cases query with
  | resolve key =>
      exact registry.leadAlike_settle_resolve key
  | isSupported key =>
      rw [Query.request, handle, settle_isSupported]
      exact registry.leadAlike_settle_resolve key
  | chainConfig key =>
      rw [Query.request, handle, settle_chainConfig]
      exact registry.leadAlike_settle_resolve key
  | listChains =>
      exact leadAlike_summarize _ registry

/-! ## Operations -/

namespace LeadAlike

variable {left right : Registry}

/-- A key is resolved alike. -/
theorem resolve
    (alike : left.LeadAlike right)
    (key : ChainKey) :
    EndAlike FoundAlike (left.resolve key) (right.resolve key) := by
  cases named : key.name with
  | error fault =>
      rw [Registry.resolve, Registry.resolve, named]
      exact .error fault
  | ok name =>
      have leftEnded := left.leads_of_resolve named
      have rightEnded := right.leads_of_resolve named
      rw [← alike name] at rightEnded
      generalize left.resolve key = leftFound at leftEnded ⊢
      generalize right.resolve key = rightFound at rightEnded ⊢
      generalize left.leads name = led at leftEnded rightEnded
      cases leftEnded with
      | error fault =>
          cases rightEnded with
          | error fault =>
              exact .error fault
      | ok leftHere =>
          cases rightEnded with
          | ok rightHere =>
              refine .ok ⟨leftHere.1.trans rightHere.1.symm, ?_⟩
              intro other
              exact (leftHere.2 other).trans ((alike other).trans (rightHere.2 other).symm)

/-- A provider that is put into both registries, whatever its number, is found in both. -/
theorem put
    (alike : left.LeadAlike right)
    {first second : Provider}
    (twins : first.Twins second)
    (key : String)
    (leftNext rightNext : Nat) :
    ({ left.put key first with next := leftNext } : Registry).LeadAlike
      { right.put key second with next := rightNext } := by
  intro name
  rw [leads_put, leads_put, alike name]
  have same : first.withNumber 0 = second.withNumber 0 := twins
  rw [same]

/-- A question that twins answer alike is answered alike by registries that lead alike. -/
theorem withProvider
    {α : Type}
    (alike : left.LeadAlike right)
    (key : ChainKey)
    {question : Provider → Fetch (Except Fault α × Provider)}
    (each : ∀ first second : Provider,
      first.Twins second → Mirrors AnsweredAlike (question first) (question second)) :
    Mirrors ServedAlike
      (left.withProvider key question) (right.withProvider key question) := by
  have ended := alike.resolve key
  unfold Registry.withProvider
  generalize left.resolve key = leftFound at ended ⊢
  generalize right.resolve key = rightFound at ended ⊢
  cases ended with
  | error fault =>
      exact .pure ⟨rfl, alike⟩
  | @ok leftFound rightFound here =>
      cases key.name with
      | error fault =>
          exact .pure ⟨rfl, alike⟩
      | ok name =>
          apply (each leftFound.1 rightFound.1 here.1).bind
          rintro ⟨outcome, leftLater⟩ ⟨_, rightLater⟩ ⟨rfl, twins⟩
          exact .pure ⟨rfl, put here.2 twins name _ _⟩

theorem withExposed
    {α : Type}
    (alike : left.LeadAlike right)
    (key : ChainKey)
    {question : Provider → Fetch α}
    (each : ∀ first second : Provider, first.Twins second → question first = question second) :
    Mirrors ServedAlike
      (left.withExposed key question) (right.withExposed key question) := by
  apply alike.withProvider key
  intro first second twins
  have sameQuestion := each first second twins
  rcases twins.exists_number with ⟨number, rfl⟩
  have sameExposure : (first.withNumber number).exposesCalls = first.exposesCalls := rfl
  rw [sameExposure, ← sameQuestion]
  cases first.exposesCalls with
  | true =>
      apply Mirrors.bind_same
      intro outcome
      exact .pure ⟨rfl, twins⟩
  | false =>
      exact .pure ⟨rfl, twins⟩

theorem answering
    {α : Type}
    (answer : α → Answer)
    {first second : Fetch (Except Fault α × Registry)}
    (asked : Mirrors ServedAlike first second) :
    Mirrors ServedAlike
      (Registry.answering answer first) (Registry.answering answer second) := by
  apply asked.bind
  rintro ⟨outcome, leftLater⟩ ⟨_, rightLater⟩ ⟨rfl, still⟩
  exact .pure ⟨rfl, still⟩

theorem settle_register
    (alike : left.LeadAlike right)
    (key : ChainKey)
    (provider : Provider) :
    ServedAlike
      (left.settle ((left.register key provider).map (Answer.registered, ·)))
      (right.settle ((right.register key provider).map (Answer.registered, ·))) := by
  rw [register, register]
  cases key.name with
  | error fault =>
      exact ⟨rfl, alike⟩
  | ok name =>
      exact ⟨rfl, alike.put rfl name _ _⟩

theorem settle_chainConfig
    (alike : left.LeadAlike right)
    (key : ChainKey) :
    ServedAlike
      (left.settle (left.chainConfig key)) (right.settle (right.chainConfig key)) := by
  have ended := alike.resolve key
  rw [chainConfig, chainConfig]
  generalize left.resolve key = leftFound at ended ⊢
  generalize right.resolve key = rightFound at ended ⊢
  cases ended with
  | error fault =>
      exact ⟨rfl, alike⟩
  | @ok leftFound rightFound here =>
      rcases here with ⟨twins, still⟩
      rcases leftFound with ⟨provider, leftLater⟩
      rcases rightFound with ⟨twin, rightLater⟩
      rcases Provider.Twins.exists_number twins with ⟨number, rfl⟩
      exact ⟨rfl, still⟩

/-- An operation has the same answer, calls and events, and the registries still lead alike. -/
theorem perform
    (alike : left.LeadAlike right)
    (operation : Operation) :
    Mirrors ServedAlike (left.perform operation) (right.perform operation) := by
  cases operation with
  | balances key address tier =>
      apply answering
      apply alike.withProvider key
      intro first second twins
      apply (twins.balances address tier).bind
      rintro ⟨balances, leftLater⟩ ⟨_, rightLater⟩ ⟨rfl, still⟩
      exact .pure ⟨rfl, still⟩
  | gasPrice key tier =>
      apply answering
      apply alike.withProvider key
      intro first second twins
      exact twins.gasPrice tier
  | estimateGas key transaction tier =>
      apply answering
      apply alike.withProvider key
      intro first second twins
      exact twins.estimateGas transaction tier
  | callMethod key method params tier =>
      apply answering
      apply alike.withExposed key
      intro first second twins
      exact twins.callMethod method params tier
  | checkHealth key tier =>
      apply answering
      apply alike.withExposed key
      intro first second twins
      exact twins.checkHealth tier
  | register key provider =>
      exact .pure (alike.settle_register key provider)
  | chainConfig key =>
      apply answering
      exact .pure (alike.settle_chainConfig key)

end LeadAlike

/-! ## Runs -/

/-- Two runs that have served the same, with the same log, and whose registries lead alike. -/
structure Run.Alike
    (left right : Run) :
    Prop where
  served : left.served = right.served
  log : left.log = right.log
  registry : left.registry.LeadAlike right.registry

/-- From registries that lead alike, steps are served as their operations alone are. -/
theorem LeadAlike.serve
    {left right : Registry}
    (alike : left.LeadAlike right)
    (network : Network)
    (log : Log)
    (steps : List Step) :
    (left.serve network log steps).Alike
      (right.serve network log ((steps.filterMap Step.operation?).map .operation)) := by
  induction steps generalizing left right log with
  | nil =>
      exact ⟨rfl, rfl, alike⟩
  | cons step rest induction =>
      cases step with
      | query query =>
          have still : (left.handle query.request).2.LeadAlike right := fun name =>
            (left.leadAlike_query query name).trans (alike name)
          exact induction still log
      | operation operation =>
          rcases alike.perform operation network log with ⟨ended, sameLog⟩
          simp only [List.filterMap_cons, Step.operation?, List.map_cons, Registry.serve]
          rw [← sameLog]
          generalize ((left.perform operation).run network log).1 = leftOutcome at ended ⊢
          generalize ((right.perform operation).run network log).1 = rightOutcome at ended ⊢
          cases ended with
          | error fault =>
              have later := induction alike ((left.perform operation).run network log).2
              exact ⟨congrArg (List.cons _) later.served, later.log, later.registry⟩
          | @ok first second here =>
              rcases first with ⟨outcome, leftLater⟩
              rcases second with ⟨sameOutcome, rightLater⟩
              rcases here with ⟨same, still⟩
              cases same
              have later := induction still ((left.perform operation).run network log).2
              exact ⟨congrArg (List.cons _) later.served, later.log, later.registry⟩

/--
Queries that come between the operations of a service, however many and wherever, change
no answer, no call and no event of any operation, and nothing of what later operations
come to.
-/
theorem serve_transparent
    (registry : Registry)
    (network : Network)
    (log : Log)
    (steps : List Step) :
    (registry.serve network log steps).Alike
      (registry.serve network log ((steps.filterMap Step.operation?).map .operation)) :=
  LeadAlike.serve (fun _ => rfl) network log steps

end Holdings.Registry
