import Holdings.Proofs.Provider.Alike

/-!
# Runs of operations

A provider can be asked for balances, for the price of gas, for estimates, to pass
a call on, and for its health, in any order and at both tiers.  Whatever it is
asked, it stays as it was built, and what every backend has that it opens, and
none loses when it is asked for balances, all backends have that it keeps.
-/

namespace Holdings.Provider

open Fetch

/-! ## Operations -/

/-- What a provider can be asked to do. -/
inductive Operation where
  | balances (address tier : Json)
  | gasPrice (tier : Json)
  | estimateGas (transaction tier : Json)
  | callMethod (method : String) (params tier : Json)
  | checkHealth (tier : Json)
deriving Inhabited, Repr

/-- The tier that an operation is for. -/
def Operation.tier : Operation → Json
  | .balances _ tier => tier
  | .gasPrice tier => tier
  | .estimateGas _ tier => tier
  | .callMethod _ _ tier => tier
  | .checkHealth tier => tier

/-- Does what is asked, whatever comes out of it; what is left is the provider afterwards. -/
def perform
    (provider : Provider) :
    Operation → Fetch Provider
  | .balances address tier => do
    return (← provider.balances address tier).2
  | .gasPrice tier => do
    return (← provider.gasPrice tier).2
  | .estimateGas transaction tier => do
    return (← provider.estimateGas transaction tier).2
  | .callMethod method params tier => do
    let _ ← (provider.callMethod method params tier).attempt
    return provider
  | .checkHealth tier => do
    let _ ← provider.checkHealth tier
    return provider

/-- An operation with the calls that were made for it. -/
structure Served where
  operation : Operation
  calls : List Call

/-- What has happened to a provider: the operations in order, and what it and the log became. -/
structure Run where
  served : List Served
  provider : Provider
  log : Log

/-- Performs operations one after the other. -/
def serve
    (provider : Provider)
    (network : Network)
    (log : Log) :
    List Operation → Run
  | [] => ⟨[], provider, log⟩
  | operation :: rest =>
    let ended := (provider.perform operation).run network log
    let later := serve (ended.1.toOption.getD provider) network ended.2 rest
    { later with
      served := ⟨operation, ended.2.calls.drop log.calls.length⟩ :: later.served }

variable {provider later : Provider} {network : Network} {log grown : Log}

/-! ## What an operation makes of a provider -/

/-- An operation is a job for a backend that leaves it as it is, or one for its balances. -/
inductive Performs
    (provider : Provider)
    (network : Network) :
    Provider → Prop where
  | unchanged :
      Performs provider network provider
  | balances
      {address : Json}
      {tier : Tier}
      {outcome : Except Fault Payload}
      {later : Provider}
      {log grown : Log}
      (ended : (provider.withBackend tier fun backend =>
          backend.balances provider.transport provider.chain.id address tier).run network log =
        (.ok (outcome, later), grown)) :
      Performs provider network later
  | asked
      {α : Type}
      {tier : Tier}
      {job : Backend → Fetch α}
      {outcome : Except Fault α}
      {later : Provider}
      {log grown : Log}
      (ended : (provider.withBackend tier (Provider.unchanged job)).run network log =
        (.ok (outcome, later), grown)) :
      Performs provider network later

theorem performs_perform
    {operation : Operation}
    (ended : (provider.perform operation).run network log = (.ok later, grown)) :
    provider.Performs network later := by
  cases operation with
  | balances address tier =>
      rcases bind_run_eq_ok ended with ⟨⟨answer, kept⟩, between, asked, same⟩
      cases same
      rcases withBackend_of_balances asked with rfl | ⟨named, outcome, jobLog, jobRun⟩
      · exact .unchanged
      · exact .balances jobRun
  | gasPrice tier =>
      rcases bind_run_eq_ok ended with ⟨⟨outcome, kept⟩, between, asked, same⟩
      cases same
      rcases withBackend_of_gasPrice asked with rfl | ⟨named, fee, jobLog, jobRun⟩
      · exact .unchanged
      · exact .asked jobRun
  | estimateGas transaction tier =>
      rcases bind_run_eq_ok ended with ⟨⟨outcome, kept⟩, between, asked, same⟩
      cases same
      rcases withBackend_of_estimateGas asked with rfl | ⟨named, jobRun⟩
      · exact .unchanged
      · exact .asked jobRun
  | callMethod method params tier =>
      rcases bind_run_eq_ok ended with ⟨outcome, between, -, same⟩
      cases same
      exact .unchanged
  | checkHealth tier =>
      rcases bind_run_eq_ok ended with ⟨isWell, between, -, same⟩
      cases same
      exact .unchanged

theorem performs_getD
    (provider : Provider)
    (operation : Operation)
    (network : Network)
    (log : Log) :
    provider.Performs network
      (((provider.perform operation).run network log).1.toOption.getD provider) := by
  cases ended : (provider.perform operation).run network log with
  | mk outcome grown =>
      cases outcome with
      | error fault =>
          exact .unchanged
      | ok later =>
          exact performs_perform ended

theorem Performs.becomes
    (performs : provider.Performs network later) :
    provider.Becomes later := by
  cases performs with
  | unchanged =>
      exact .unchanged
  | balances ended =>
      exact becomes_withBackend (fun _ _ _ _ _ _ => withoutCache_balances) ended
  | asked ended =>
      exact becomes_withBackend
        (fun _ _ _ _ _ _ ended => congrArg Backend.withoutCache (eq_of_unchanged ended)) ended

/-- A run leaves a provider as it was built. -/
theorem bare_serve
    (provider : Provider)
    (network : Network)
    (log : Log)
    (operations : List Operation) :
    (provider.serve network log operations).provider.bare = provider.bare := by
  induction operations generalizing provider log with
  | nil =>
      rfl
  | cons operation rest induction =>
      exact (induction _ _).trans
        (provider.performs_getD operation network log).becomes.bare_eq

/-! ## What kept backends have in common -/

/-- Every backend that a provider keeps has a property. -/
def Keeps
    (provider : Provider)
    (holds : Tier → Backend → Prop) :
    Prop :=
  ∀ tier backend, provider.backends.get tier = some backend → holds tier backend

/-- Every backend that a provider opens has a property, and none loses it over its balances. -/
structure Maintains
    (provider : Provider)
    (network : Network)
    (holds : Tier → Backend → Prop) :
    Prop where
  opened : ∀ tier backend, provider.opens tier = .ok backend → holds tier backend
  balances : ∀ tier backend address log payload kept grown,
    holds tier backend →
      (backend.balances provider.transport provider.chain.id address tier).run network log =
          (.ok (payload, kept), grown) →
        holds tier kept

variable {holds : Tier → Backend → Prop}

theorem Keeps.keep
    (keeps : provider.Keeps holds)
    {tier : Tier}
    {backend : Backend}
    (here : holds tier backend) :
    (provider.keep tier backend).Keeps holds := by
  intro other kept found
  by_cases same : other = tier
  · subst same
    simp only [Provider.keep, ByTier.get_set_self, Option.some.injEq] at found
    subst found
    exact here
  · simp only [Provider.keep, ByTier.get_set_of_ne _ _ same] at found
    exact keeps other kept found

/-- The backend of a tier has the property, and so have all that are kept afterwards. -/
theorem Keeps.backendOf
    (keeps : provider.Keeps holds)
    {tier : Tier}
    (opened : ∀ backend, provider.opens tier = .ok backend → holds tier backend)
    {backend : Backend}
    {built : Provider}
    (found : provider.backendOf tier = .ok (backend, built)) :
    holds tier backend ∧ built.Keeps holds := by
  cases kept : provider.backends.get tier with
  | some standing =>
      rw [Provider.backendOf, kept] at found
      cases found
      exact ⟨keeps tier backend kept, keeps⟩
  | none =>
      rw [backendOf_of_none kept] at found
      rcases Outcome.bind_eq_ok.1 found with ⟨fresh, opens, same⟩
      cases same
      exact ⟨opened backend opens, keeps.keep (opened backend opens)⟩

/-- A job that takes the property from no backend takes it from none that is kept. -/
theorem Keeps.withBackend
    {α : Type}
    (keeps : provider.Keeps holds)
    {tier : Tier}
    (opened : ∀ backend, provider.opens tier = .ok backend → holds tier backend)
    {job : Backend → Fetch (α × Backend)}
    (jobKeeps : ∀ backend log value kept grown,
      holds tier backend →
        (job backend).run network log = (.ok (value, kept), grown) →
          holds tier kept)
    {outcome : Except Fault α}
    (ended : (provider.withBackend tier job).run network log = (.ok (outcome, later), grown)) :
    later.Keeps holds := by
  cases leaves_withBackend ended with
  | refused missing =>
      exact keeps
  | failed found jobRun =>
      exact (keeps.backendOf opened found).2
  | done found jobRun =>
      rcases keeps.backendOf opened found with ⟨here, builtKeeps⟩
      exact builtKeeps.keep (jobKeeps _ log _ _ _ here jobRun)

theorem Keeps.performs
    (keeps : provider.Keeps holds)
    (maintains : provider.Maintains network holds)
    (performs : provider.Performs network later) :
    later.Keeps holds := by
  cases performs with
  | unchanged =>
      exact keeps
  | @balances address tier outcome _ _ _ ended =>
      exact keeps.withBackend (maintains.opened tier)
        (fun backend log payload kept grown =>
          maintains.balances tier backend address log payload kept grown) ended
  | @asked α tier job _ _ _ _ ended =>
      refine keeps.withBackend (maintains.opened tier) ?_ ended
      intro backend log value kept grown here jobRun
      rw [eq_of_unchanged jobRun]
      exact here

theorem Maintains.congr
    (maintains : provider.Maintains network holds)
    (alike : later.bare = provider.bare) :
    later.Maintains network holds := by
  have sameOpens (tier : Tier) : later.opens tier = provider.opens tier :=
    congrArg (fun bare => bare.opens tier) alike
  rcases fields_of_bare alike with ⟨sameChain, -, sameTransport⟩
  constructor
  · intro tier backend opened
    rw [sameOpens] at opened
    exact maintains.opened tier backend opened
  · intro tier backend address log payload kept grown here ended
    rw [sameTransport, sameChain] at ended
    exact maintains.balances tier backend address log payload kept grown here ended

/-- What is maintained, every backend has that is kept after a run. -/
theorem Keeps.serve
    (keeps : provider.Keeps holds)
    (maintains : provider.Maintains network holds)
    (log : Log)
    (operations : List Operation) :
    (provider.serve network log operations).provider.Keeps holds := by
  induction operations generalizing provider log with
  | nil =>
      exact keeps
  | cons operation rest induction =>
      have performs := provider.performs_getD operation network log
      exact induction (keeps.performs maintains performs)
        (maintains.congr performs.becomes.bare_eq) _

end Holdings.Provider
