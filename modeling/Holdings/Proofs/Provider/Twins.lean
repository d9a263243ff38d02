import Holdings.Proofs.Network.Within
import Holdings.Proofs.Outcome
import Holdings.Provider

/-!
# Providers that differ in their number

The number of a provider only tells it from others.  Two providers that differ in
nothing else answer every question alike, with the same calls and the same events,
and differ in nothing else afterwards.  Two computations are compared by one relation,
which is kept when something more is done after both.
-/

namespace Holdings

open Outcome

/-! ## Computations that mirror each other -/

namespace Fetch

variable {α β γ δ : Type} {related : α → β → Prop} {later : γ → δ → Prop}

/-- On every network and after every log, two computations end alike and leave the same log. -/
def Mirrors
    (related : α → β → Prop)
    (left : Fetch α)
    (right : Fetch β) :
    Prop :=
  ∀ network log,
    EndAlike related (left.run network log).1 (right.run network log).1 ∧
      (left.run network log).2 = (right.run network log).2

namespace Mirrors

theorem pure
    {first : α}
    {second : β}
    (here : related first second) :
    Mirrors related (Pure.pure first) (Pure.pure second) := by
  intro network log
  exact ⟨.ok here, rfl⟩

/-- A computation mirrors itself. -/
theorem refl
    (fetch : Fetch α) :
    Mirrors Eq fetch fetch := by
  intro network log
  refine ⟨?_, rfl⟩
  cases (fetch.run network log).1 with
  | ok value =>
      exact .ok rfl
  | error fault =>
      exact .error fault

theorem bind
    {left : Fetch α}
    {right : Fetch β}
    {next : α → Fetch γ}
    {other : β → Fetch δ}
    (here : Mirrors related left right)
    (rest : ∀ first second, related first second → Mirrors later (next first) (other second)) :
    Mirrors later (left >>= next) (right >>= other) := by
  intro network log
  rcases here network log with ⟨ended, sameLog⟩
  rw [run_bind, run_bind]
  generalize left.run network log = leftRun at ended sameLog ⊢
  generalize right.run network log = rightRun at ended sameLog ⊢
  rcases leftRun with ⟨leftOutcome, leftLog⟩
  rcases rightRun with ⟨rightOutcome, rightLog⟩
  cases sameLog
  cases ended with
  | ok here =>
      exact rest _ _ here network leftLog
  | error fault =>
      exact ⟨.error fault, rfl⟩

/-- What is done in both places first leaves the rest to be compared. -/
theorem bind_same
    {fetch : Fetch α}
    {next : α → Fetch γ}
    {other : α → Fetch δ}
    (rest : ∀ value, Mirrors later (next value) (other value)) :
    Mirrors later (fetch >>= next) (fetch >>= other) := by
  apply (refl fetch).bind
  rintro value _ rfl
  exact rest value

end Mirrors

end Fetch

/-! ## Providers with other numbers -/

namespace Provider

open Fetch

/-- The provider under another number. -/
def withNumber
    (provider : Provider)
    (number : Nat) :
    Provider :=
  { provider with number := number }

/-- Two providers that differ in their number at most. -/
def Twins
    (left right : Provider) :
    Prop :=
  left.withNumber 0 = right.withNumber 0

/-- One provider is another one under its own number. -/
theorem Twins.exists_number
    {left right : Provider}
    (twins : left.Twins right) :
    ∃ number, right = left.withNumber number :=
  ⟨right.number, congrArg (fun provider => provider.withNumber right.number) twins.symm⟩

theorem twins_withNumber
    (provider : Provider)
    (number : Nat) :
    provider.Twins (provider.withNumber number) :=
  rfl

/-- Two questions were answered alike, by providers that are twins still. -/
def AnsweredAlike
    {α : Type}
    (left right : α × Provider) :
    Prop :=
  left.1 = right.1 ∧ left.2.Twins right.2

variable {α : Type}

theorem backendOf_withNumber
    (provider : Provider)
    (number : Nat)
    (tier : Tier) :
    (provider.withNumber number).backendOf tier =
      (provider.backendOf tier).map fun found => (found.1, found.2.withNumber number) := by
  simp only [backendOf, withNumber]
  cases provider.backends.get tier with
  | some backend =>
      rfl
  | none =>
      simp only [route]
      cases provider.routes.get tier with
      | none =>
          rfl
      | some route =>
          simp only [ok_bind]
          cases route.build route.source tier route.credential <;> rfl

namespace Twins

variable {left right : Provider}

theorem backendOf
    (twins : left.Twins right)
    (tier : Tier) :
    EndAlike AnsweredAlike (left.backendOf tier) (right.backendOf tier) := by
  rcases twins.exists_number with ⟨number, rfl⟩
  rw [backendOf_withNumber]
  cases left.backendOf tier with
  | error fault =>
      exact .error fault
  | ok found =>
      exact .ok ⟨rfl, twins_withNumber found.2 number⟩

theorem keep
    (twins : left.Twins right)
    (tier : Tier)
    (backend : Backend) :
    (left.keep tier backend).Twins (right.keep tier backend) := by
  rcases twins.exists_number with ⟨number, rfl⟩
  rfl

/-- A job for the backend of a tier is done by both, and what was built or found is kept by both. -/
theorem withBackend
    (twins : left.Twins right)
    (tier : Tier)
    (job : Backend → Fetch (α × Backend)) :
    Mirrors AnsweredAlike (left.withBackend tier job) (right.withBackend tier job) := by
  have found := twins.backendOf tier
  unfold Provider.withBackend
  generalize left.backendOf tier = leftFound at found ⊢
  generalize right.backendOf tier = rightFound at found ⊢
  cases found with
  | error fault =>
      exact .pure ⟨rfl, twins⟩
  | @ok first second here =>
      rcases first with ⟨backend, leftBuilt⟩
      rcases second with ⟨sameBackend, rightBuilt⟩
      rcases here with ⟨same, built⟩
      cases same
      apply Mirrors.bind_same
      intro outcome
      cases outcome with
      | ok done =>
          exact .pure ⟨rfl, Twins.keep built tier done.2⟩
      | error fault =>
          exact .pure ⟨rfl, built⟩

theorem tryBalances
    (twins : left.Twins right)
    (address tier : Json) :
    Mirrors AnsweredAlike (left.tryBalances address tier) (right.tryBalances address tier) := by
  unfold Provider.tryBalances
  cases Tier.read tier with
  | error fault =>
      exact .pure ⟨rfl, twins⟩
  | ok named =>
      have job := twins.withBackend named fun backend =>
        backend.balances left.transport left.chain.id address named
      rcases twins.exists_number with ⟨number, rfl⟩
      apply job.bind
      rintro ⟨outcome, leftLater⟩ ⟨_, rightLater⟩ ⟨rfl, still⟩
      exact .pure ⟨rfl, still⟩

theorem balances
    (twins : left.Twins right)
    (address tier : Json) :
    Mirrors AnsweredAlike (left.balances address tier) (right.balances address tier) := by
  apply (twins.tryBalances address tier).bind
  rintro ⟨outcome, leftLater⟩ ⟨_, rightLater⟩ ⟨rfl, still⟩
  cases outcome with
  | ok balances =>
      exact .pure ⟨rfl, still⟩
  | error fault =>
      rcases twins.exists_number with ⟨number, rfl⟩
      apply Mirrors.bind_same
      intro recorded
      exact .pure ⟨rfl, still⟩

theorem gasPrice
    (twins : left.Twins right)
    (tier : Json) :
    Mirrors AnsweredAlike (left.gasPrice tier) (right.gasPrice tier) := by
  unfold Provider.gasPrice
  cases Tier.read tier with
  | error fault =>
      exact .pure ⟨rfl, twins⟩
  | ok named =>
      have job := twins.withBackend named (unchanged fun backend => backend.fees left.transport)
      rcases twins.exists_number with ⟨number, rfl⟩
      apply job.bind
      rintro ⟨outcome, leftLater⟩ ⟨_, rightLater⟩ ⟨rfl, still⟩
      exact .pure ⟨rfl, still⟩

theorem estimateGas
    (twins : left.Twins right)
    (transaction tier : Json) :
    Mirrors AnsweredAlike
      (left.estimateGas transaction tier) (right.estimateGas transaction tier) := by
  unfold Provider.estimateGas
  cases Tier.read tier with
  | error fault =>
      exact .pure ⟨rfl, twins⟩
  | ok named =>
      have job := twins.withBackend named (unchanged fun backend =>
        backend.estimate left.transport left.chain.id transaction)
      rcases twins.exists_number with ⟨number, rfl⟩
      exact job

theorem callMethod
    (twins : left.Twins right)
    (method : String)
    (params tier : Json) :
    left.callMethod method params tier = right.callMethod method params tier := by
  rcases twins.exists_number with ⟨number, rfl⟩
  rfl

theorem checkHealth
    (twins : left.Twins right)
    (tier : Json) :
    left.checkHealth tier = right.checkHealth tier := by
  rcases twins.exists_number with ⟨number, rfl⟩
  rfl

end Twins

end Provider

end Holdings
