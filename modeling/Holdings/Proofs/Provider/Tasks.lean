import Holdings.Proofs.Provider.Balances
import Holdings.Proofs.Provider.Runs

/-!
# Tasks for the backend of a tier

Besides the questions that a provider answers, a host can ask it for the backend, the
credential and the address of a tier, and can close it.  Whatever needs the backend of
a tier goes about it in one way: the backend is found or built, a job is done with it,
and something is made of the outcome.  Everything else leaves a provider as it is.

A builder belongs to the host, and may come to something else each time it is called.
So what an action does is told for whichever builders there are while it lasts.
-/

namespace Holdings.Provider

open Fetch

/-! ## Actions -/

/-- What a host can do with a provider. -/
inductive Action where
  | ask (operation : Operation)
  | openBackend (tier : Json)
  | apiKey (tier : Json)
  | baseUrl (tier : Json)
  | close
deriving Inhabited, Repr

/-- Does what the host wants, whatever comes out of it; what is left is the provider afterwards. -/
def carryOut
    (provider : Provider) :
    Action → Fetch Provider
  | .ask operation => provider.perform operation
  | .openBackend tier =>
    match Tier.read tier >>= provider.backendOf with
    | .ok (_, later) => return later
    | .error _ => return provider
  | .apiKey tier => do
    let _ ← (ofExcept (Tier.read tier >>= provider.apiKey)).attempt
    return provider
  | .baseUrl tier => do
    let _ ← (ofExcept (Tier.read tier >>= provider.baseUrl)).attempt
    return provider
  | .close => return provider

/-- The tier whose backend an operation needs, if it names one. -/
def Operation.backendTier? : Operation → Option Tier
  | .balances _ tier => (Tier.read tier).toOption
  | .gasPrice tier => (Tier.read tier).toOption
  | .estimateGas _ tier => (Tier.read tier).toOption
  | .callMethod _ _ _ => none
  | .checkHealth _ => none

/-- The tier whose backend an action needs, if it names one. -/
def Action.backendTier? : Action → Option Tier
  | .ask operation => operation.backendTier?
  | .openBackend tier => (Tier.read tier).toOption
  | .apiKey _ => none
  | .baseUrl _ => none
  | .close => none

/-! ## Builders -/

/-- A provider whose routes have other builders. -/
def withBuilders
    (provider : Provider)
    (builders : Tier → Builder) :
    Provider :=
  { provider with
    routes := .ofFn fun tier =>
      (provider.routes.get tier).map fun route => { route with build := builders tier } }

@[simp]
theorem routes_withBuilders
    (provider : Provider)
    (builders : Tier → Builder)
    (tier : Tier) :
    (provider.withBuilders builders).routes.get tier =
      (provider.routes.get tier).map fun route => { route with build := builders tier } := by
  simp [withBuilders]

@[simp]
theorem backends_withBuilders
    (provider : Provider)
    (builders : Tier → Builder) :
    (provider.withBuilders builders).backends = provider.backends :=
  rfl

/-! ## Backends -/

theorem backendOf_of_some
    {provider : Provider}
    {tier : Tier}
    {backend : Backend}
    (kept : provider.backends.get tier = some backend) :
    provider.backendOf tier = .ok (backend, provider) := by
  rw [Provider.backendOf, kept]

/-- What is found is kept already. -/
theorem keep_of_backendOf
    {provider built : Provider}
    {tier : Tier}
    {backend : Backend}
    (found : provider.backendOf tier = .ok (backend, built)) :
    built.keep tier backend = built := by
  have set_get (values : ByTier (Option Backend)) :
      values.set tier (values.get tier) = values := by
    cases tier <;> rfl
  cases kept : provider.backends.get tier with
  | some standing =>
      rw [backendOf_of_some kept] at found
      cases found
      rw [keep, ← kept, set_get]
  | none =>
      rw [backendOf_of_none kept] at found
      rcases Outcome.bind_eq_ok.1 found with ⟨opened, -, same⟩
      cases same
      cases tier <;> rfl

/-! ## Tasks -/

/--
A job for the backend of a tier, with what is done about its outcome.  The job leaves the backend
as it is, apart from what it found, and what is done about the outcome always ends.
-/
structure Task where
  Value : Type
  tier : Tier
  job : Backend → Fetch (Value × Backend)
  finish : Except Fault Value → Fetch Unit
  keeps : ∀ backend network log value kept grown,
    (job backend).run network log = (.ok (value, kept), grown) →
    kept.withoutCache = backend.withoutCache
  ends : ∀ outcome network log,
    ∃ grown, (finish outcome).run network log = (.ok (), grown)

namespace Task

/-- A provider does a task with its backend. -/
def doneBy
    (task : Task)
    (provider : Provider) :
    Fetch Provider := do
  let (outcome, later) ← provider.withBackend task.tier task.job
  task.finish outcome
  return later

/-- A task whose outcome is handed on as it is. -/
def simple
    {Value : Type}
    (tier : Tier)
    (job : Backend → Fetch Value) :
    Task where
  Value := Value
  tier := tier
  job := unchanged job
  finish := fun _ => pure ()
  keeps := fun _ _ _ _ _ _ ended => congrArg Backend.withoutCache (eq_of_unchanged ended)
  ends := fun _ _ log => ⟨log, rfl⟩

end Task

/-- A task for balances records a failure, also one that shows when the balances are rendered. -/
def balancesTask
    (provider : Provider)
    (address given : Json)
    (tier : Tier) :
    Task where
  Value := Payload
  tier := tier
  job := fun backend => backend.balances provider.transport provider.chain.id address tier
  finish := fun outcome =>
    match outcome >>= fun payload => provider.rendering.balances payload provider.chain.config with
    | .ok _ => pure ()
    | .error fault => record (provider.failureEvent .error given "get_balances" fault)
  keeps := fun _ _ _ _ _ _ => withoutCache_balances
  ends := fun outcome network log => by
    split
    · exact ⟨log, rfl⟩
    · exact ⟨_, rfl⟩

section

variable {provider : Provider} {given : Json} {tier : Tier}

theorem perform_balances
    (named : Tier.read given = .ok tier)
    (address : Json) :
    provider.perform (.balances address given) =
      (provider.balancesTask address given tier).doneBy provider := by
  simp only [perform, balances, tryBalances, named, Task.doneBy, balancesTask, bind_assoc,
    pure_bind]
  congr 1
  funext ended
  rcases ended with ⟨outcome, later⟩
  dsimp only
  cases outcome >>= fun payload =>
      provider.rendering.balances payload provider.chain.config with
  | ok balances =>
      simp only [pure_bind]
  | error fault =>
      simp only [bind_assoc, pure_bind]

theorem perform_gasPrice
    (named : Tier.read given = .ok tier) :
    provider.perform (.gasPrice given) =
      (Task.simple tier fun backend => backend.fees provider.transport).doneBy provider := by
  simp only [perform, gasPrice, named, Task.doneBy, Task.simple, bind_assoc, pure_bind]

theorem perform_estimateGas
    (named : Tier.read given = .ok tier)
    (transaction : Json) :
    provider.perform (.estimateGas transaction given) =
      (Task.simple tier fun backend =>
        backend.estimate provider.transport provider.chain.id transaction).doneBy provider := by
  simp only [perform, estimateGas, named, Task.doneBy, Task.simple, pure_bind]

/-- To ask for a backend is to do nothing with it. -/
theorem carryOut_openBackend
    (named : Tier.read given = .ok tier) :
    provider.carryOut (.openBackend given) =
      (Task.simple tier fun _ => pure ()).doneBy provider := by
  rw [carryOut, named, Outcome.ok_bind, Task.doneBy, Task.simple, withBackend]
  cases found : provider.backendOf tier with
  | error fault =>
      rfl
  | ok held =>
      -- The backend is put back as it was found, which changes nothing.
      rcases held with ⟨backend, built⟩
      have same := keep_of_backendOf found
      funext network log
      show _ = (Except.ok (built.keep tier backend), log)
      rw [same]
      rfl

/-- An action that needs the backend of a tier is a task, the same one for all builders. -/
theorem exists_task
    {action : Action}
    (takes : action.backendTier? = some tier)
    (provider : Provider) :
    ∃ task : Task, task.tier = tier ∧ ∀ builders,
      (provider.withBuilders builders).carryOut action =
        task.doneBy (provider.withBuilders builders) := by
  have named {given : Json} (read : (Tier.read given).toOption = some tier) :
      Tier.read given = .ok tier := by
    cases meant : Tier.read given with
    | error fault =>
        rw [meant] at read
        cases read
    | ok other =>
        rw [meant] at read
        cases read
        rfl
  cases action with
  | ask operation =>
      cases operation with
      | balances address given =>
          exact ⟨provider.balancesTask address given tier, rfl, fun builders =>
            perform_balances (named takes) address⟩
      | gasPrice given =>
          exact ⟨.simple tier fun backend => backend.fees provider.transport, rfl,
            fun builders => perform_gasPrice (named takes)⟩
      | estimateGas transaction given =>
          exact ⟨.simple tier fun backend =>
              backend.estimate provider.transport provider.chain.id transaction, rfl,
            fun builders => perform_estimateGas (named takes) transaction⟩
      | callMethod method params given =>
          cases takes
      | checkHealth given =>
          cases takes
  | openBackend given =>
      exact ⟨_, rfl, fun builders => carryOut_openBackend (named takes)⟩
  | apiKey given =>
      cases takes
  | baseUrl given =>
      cases takes
  | close =>
      cases takes

end

/-- What a task leaves of a provider: without a backend nothing new, else a kept backend. -/
inductive Uses
    (provider : Provider)
    (tier : Tier) :
    Provider → Prop where
  | refused
      {fault : Fault}
      (missing : provider.backendOf tier = .error fault) :
      Uses provider tier provider
  | used
      {backend kept : Backend}
      {built : Provider}
      (found : provider.backendOf tier = .ok (backend, built))
      (same : kept.withoutCache = backend.withoutCache) :
      Uses provider tier (built.keep tier kept)

theorem Task.uses
    (task : Task)
    (provider : Provider)
    (network : Network)
    (log : Log) :
    ∃ later grown,
      (task.doneBy provider).run network log = (.ok later, grown) ∧
        provider.Uses task.tier later := by
  rcases exists_run_withBackend provider task.tier task.job network log with
    ⟨outcome, later, between, ended⟩
  rcases task.ends outcome network between with ⟨grown, finished⟩
  refine ⟨later, grown, ?_, ?_⟩
  · simp only [Task.doneBy, run_bind, ended, finished, run_pure]
  · cases leaves_withBackend ended with
    | refused missing =>
        exact .refused missing
    | failed found jobRun =>
        rw [← keep_of_backendOf found]
        exact .used found rfl
    | done found jobRun =>
        exact .used found (task.keeps _ _ _ _ _ _ jobRun)

/-- The builders make no difference to a tier whose backend is kept. -/
theorem Task.doneBy_withBuilders
    (task : Task)
    {provider : Provider}
    {backend : Backend}
    (kept : provider.backends.get task.tier = some backend)
    (builders : Tier → Builder) :
    task.doneBy (provider.withBuilders builders) =
      (fun later => later.withBuilders builders) <$> task.doneBy provider := by
  have stillKept : (provider.withBuilders builders).backends.get task.tier = some backend := kept
  simp only [Task.doneBy, withBackend, backendOf_of_some kept, backendOf_of_some stillKept,
    map_bind, bind_assoc, map_pure]
  congr 1
  funext attempted
  cases attempted with
  | error fault =>
      simp only [pure_bind]
  | ok value =>
      simp only [pure_bind]
      rfl

/-! ## What an action leaves -/

theorem getD_of_bind_pure
    {α : Type}
    (fetch : Fetch α)
    (provider : Provider)
    (network : Network)
    (log : Log) :
    ((fetch >>= fun _ => pure provider).run network log).1.toOption.getD provider = provider := by
  rw [run_bind]
  cases fetch.run network log with
  | mk outcome grown =>
      cases outcome <;> rfl

/-- An action that needs no backend leaves a provider as it is. -/
theorem carryOut_of_none
    {action : Action}
    (idle : action.backendTier? = none)
    (provider : Provider)
    (network : Network)
    (log : Log) :
    ((provider.carryOut action).run network log).1.toOption.getD provider = provider := by
  have unread {given : Json} (read : (Tier.read given).toOption = none) :
      ∃ fault, Tier.read given = .error fault := by
    cases meant : Tier.read given with
    | error fault =>
        exact ⟨fault, rfl⟩
    | ok tier =>
        rw [meant] at read
        cases read
  cases action with
  | ask operation =>
      cases operation with
      | balances address given =>
          rcases unread idle with ⟨fault, meant⟩
          simp only [carryOut, perform, balances, tryBalances, meant]
          rfl
      | gasPrice given =>
          rcases unread idle with ⟨fault, meant⟩
          simp only [carryOut, perform, gasPrice, meant]
          rfl
      | estimateGas transaction given =>
          rcases unread idle with ⟨fault, meant⟩
          simp only [carryOut, perform, estimateGas, meant]
          rfl
      | callMethod method params given =>
          exact getD_of_bind_pure _ provider network log
      | checkHealth given =>
          exact getD_of_bind_pure _ provider network log
  | openBackend given =>
      rcases unread idle with ⟨fault, meant⟩
      rw [carryOut, meant]
      rfl
  | apiKey given =>
      exact getD_of_bind_pure _ provider network log
  | baseUrl given =>
      exact getD_of_bind_pure _ provider network log
  | close =>
      rfl

end Holdings.Provider
