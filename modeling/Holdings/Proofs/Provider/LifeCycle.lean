import Holdings.Proofs.Provider.Tasks

/-!
# The life of a provider

Whatever a host does with a provider, whatever its builders come to and whatever the
network answers, each tier goes one way.  Without a route it never has a backend.  With
one, its builder is called each time a backend is needed, until it comes to one; from
then on this backend is kept, and the builder is not called again.  How far a provider
has come is read off its tiers.
-/

namespace Holdings

/-- How far a state is from the first one. -/
def ProviderState.rank : ProviderState → Nat
  | .unconfigured => 0
  | .configured => 1
  | .ready => 2

namespace Provider

open Fetch

/-! ## Runs of actions -/

/-- An action, with what builders come to and the network answers while it lasts. -/
structure Step where
  builders : Tier → Builder
  network : Network
  action : Action

/-- What has become of a provider, and the log of all that was asked through it. -/
structure Moment where
  provider : Provider
  log : Log

/-- A call of the builder of a tier, with what it came to. -/
structure Construction where
  tier : Tier
  outcome : Except Fault Backend

/-- The call of a builder that a tier needs: none with a backend that is kept, or without route. -/
def construction?
    (provider : Provider)
    (tier : Tier) :
    Option Construction :=
  match provider.backends.get tier with
  | some _ => none
  | none =>
    (provider.routes.get tier).map fun route =>
      ⟨tier, route.build route.source tier route.credential⟩

namespace Moment

/-- The moment after an action. -/
def next
    (now : Moment)
    (step : Step) :
    Moment :=
  let current := now.provider.withBuilders step.builders
  let ended := (current.carryOut step.action).run step.network now.log
  ⟨ended.1.toOption.getD current, ended.2⟩

/-- The moment after some actions. -/
def after
    (now : Moment)
    (steps : List Step) :
    Moment :=
  steps.foldl next now

/-- The calls of builders for an action. -/
def called
    (now : Moment)
    (step : Step) :
    List Construction :=
  (step.action.backendTier?.bind
    (now.provider.withBuilders step.builders).construction?).toList

/-- The calls of builders for some actions, in order. -/
def constructions
    (now : Moment) :
    List Step → List Construction
  | [] => []
  | step :: rest => now.called step ++ (now.next step).constructions rest

theorem after_append
    (now : Moment)
    (steps more : List Step) :
    now.after (steps ++ more) = (now.after steps).after more :=
  List.foldl_append

end Moment

/-! ## What an action does to the tiers -/

/-- The ways in which an action ends, with the calls of builders that it makes. -/
inductive Passes
    (now : Moment)
    (step : Step) :
    Provider → List Construction → Prop where
  | unneeded
      (idle : step.action.backendTier? = none) :
      Passes now step (now.provider.withBuilders step.builders) []
  | unrouted
      {tier : Tier}
      (takes : step.action.backendTier? = some tier)
      (missing : now.provider.backends.get tier = none)
      (unrouted : now.provider.routes.get tier = none) :
      Passes now step (now.provider.withBuilders step.builders) []
  | failed
      {tier : Tier}
      {fault : Fault}
      (takes : step.action.backendTier? = some tier)
      (missing : now.provider.backends.get tier = none)
      (failed : (now.provider.withBuilders step.builders).opens tier = .error fault) :
      Passes now step (now.provider.withBuilders step.builders) [⟨tier, .error fault⟩]
  | built
      {tier : Tier}
      {backend kept : Backend}
      (takes : step.action.backendTier? = some tier)
      (missing : now.provider.backends.get tier = none)
      (routed : (now.provider.routes.get tier).isSome)
      (opened : (now.provider.withBuilders step.builders).opens tier = .ok backend)
      (same : kept.withoutCache = backend.withoutCache) :
      Passes now step ((now.provider.withBuilders step.builders).keep tier kept)
        [⟨tier, .ok backend⟩]
  | kept
      {tier : Tier}
      {backend kept : Backend}
      (takes : step.action.backendTier? = some tier)
      (standing : now.provider.backends.get tier = some backend)
      (same : kept.withoutCache = backend.withoutCache) :
      Passes now step ((now.provider.withBuilders step.builders).keep tier kept) []

theorem keep_keep
    (provider : Provider)
    (tier : Tier)
    (first last : Backend) :
    (provider.keep tier first).keep tier last = provider.keep tier last := by
  cases tier <;> rfl

theorem construction?_of_some
    {provider : Provider}
    {tier : Tier}
    {backend : Backend}
    (kept : provider.backends.get tier = some backend) :
    provider.construction? tier = none := by
  rw [construction?, kept]

/-- A builder is called for what the route of the tier opens. -/
theorem construction?_of_none
    {provider : Provider}
    {tier : Tier}
    (missing : provider.backends.get tier = none) :
    provider.construction? tier =
      (provider.routes.get tier).map fun _ => ⟨tier, provider.opens tier⟩ := by
  rw [construction?, missing]
  cases routed : provider.routes.get tier with
  | none =>
      rfl
  | some route =>
      have opens : provider.opens tier = route.build route.source tier route.credential := by
        rw [Provider.opens, route_eq_ok.2 routed, Outcome.ok_bind]
      rw [opens]
      rfl

/-- What is left when the backend of a tier was needed. -/
theorem passes_of_uses
    {now : Moment}
    {step : Step}
    {tier : Tier}
    {later : Provider}
    (takes : step.action.backendTier? = some tier)
    (uses : (now.provider.withBuilders step.builders).Uses tier later) :
    Passes now step later
      ((now.provider.withBuilders step.builders).construction? tier).toList := by
  cases standing : now.provider.backends.get tier with
  | some backend =>
      have keeps : (now.provider.withBuilders step.builders).backends.get tier = some backend :=
        standing
      have found := backendOf_of_some keeps
      rw [construction?_of_some keeps]
      cases uses with
      | refused missing =>
          rw [found] at missing
          cases missing
      | used otherFound same =>
          rw [found] at otherFound
          cases otherFound
          exact .kept takes standing same
  | none =>
      have lacks : (now.provider.withBuilders step.builders).backends.get tier = none :=
        standing
      have sought := backendOf_of_none lacks
      rw [construction?_of_none lacks, routes_withBuilders]
      cases routed : now.provider.routes.get tier with
      | none =>
          cases uses with
          | refused missing =>
              exact .unrouted takes standing routed
          | used found same =>
              rw [sought, Provider.opens, Provider.route, routes_withBuilders, routed] at found
              cases found
      | some route =>
          have isRouted : (now.provider.routes.get tier).isSome := by
            rw [routed]
            rfl
          cases opened : (now.provider.withBuilders step.builders).opens tier with
          | error fault =>
              rw [opened] at sought
              cases uses with
              | refused missing =>
                  exact .failed takes standing opened
              | used found same =>
                  rw [sought] at found
                  cases found
          | ok backend =>
              rw [opened] at sought
              cases uses with
              | refused missing =>
                  rw [sought] at missing
                  cases missing
              | used found same =>
                  rw [sought] at found
                  cases found
                  rw [keep_keep]
                  exact .built takes standing isRouted opened same

theorem passes
    (now : Moment)
    (step : Step) :
    Passes now step (now.next step).provider (now.called step) := by
  cases takes : step.action.backendTier? with
  | none =>
      have unchanged : (now.next step).provider = now.provider.withBuilders step.builders :=
        carryOut_of_none takes _ step.network now.log
      have uncalled : now.called step = [] := by
        rw [Moment.called, takes]
        rfl
      rw [unchanged, uncalled]
      exact .unneeded takes
  | some tier =>
      have calls : now.called step =
          ((now.provider.withBuilders step.builders).construction? tier).toList := by
        rw [Moment.called, takes]
        rfl
      rcases exists_task takes now.provider with ⟨task, rfl, done⟩
      rcases task.uses (now.provider.withBuilders step.builders) step.network now.log with
        ⟨later, grown, ended, uses⟩
      have left : (now.next step).provider = later := by
        rw [Moment.next, done, ended]
        rfl
      rw [left, calls]
      exact passes_of_uses takes uses

/-! ## What one action preserves -/

variable {now : Moment} {step : Step} {tier : Tier}

theorem backends_keep
    (provider : Provider)
    (tier other : Tier)
    (backend : Backend) :
    (provider.keep tier backend).backends.get other =
      if other = tier then some backend else provider.backends.get other := by
  cases tier <;> cases other <;> rfl

/-- No action gives a tier a route or takes it away. -/
theorem isSome_routes_next
    (now : Moment)
    (step : Step)
    (tier : Tier) :
    ((now.next step).provider.routes.get tier).isSome =
      (now.provider.routes.get tier).isSome := by
  have passes := passes now step
  generalize (now.next step).provider = later at passes ⊢
  generalize now.called step = calls at passes
  cases passes <;> simp [keep]

/-- A backend that is kept stays, apart from what it finds, and its builder is not called. -/
theorem next_of_some
    {backend : Backend}
    (standing : now.provider.backends.get tier = some backend)
    (step : Step) :
    (∃ later,
        (now.next step).provider.backends.get tier = some later ∧
          later.withoutCache = backend.withoutCache) ∧
      ∀ outcome, ⟨tier, outcome⟩ ∉ now.called step := by
  have passes := passes now step
  generalize (now.next step).provider = later at passes ⊢
  generalize now.called step = calls at passes ⊢
  have different {other : Tier} (missing : now.provider.backends.get other = none) :
      tier ≠ other := by
    rintro rfl
    rw [missing] at standing
    cases standing
  cases passes with
  | unneeded idle =>
      exact ⟨⟨backend, standing, rfl⟩, fun outcome => List.not_mem_nil⟩
  | unrouted takes missing unrouted =>
      exact ⟨⟨backend, standing, rfl⟩, fun outcome => List.not_mem_nil⟩
  | failed takes missing failed =>
      refine ⟨⟨backend, standing, rfl⟩, fun outcome member => ?_⟩
      exact different missing (congrArg Construction.tier (List.mem_singleton.1 member))
  | built takes missing routed opened same =>
      rw [backends_keep, if_neg (different missing)]
      refine ⟨⟨backend, standing, rfl⟩, fun outcome member => ?_⟩
      exact different missing (congrArg Construction.tier (List.mem_singleton.1 member))
  | @kept other standingOther kept takes otherStanding same =>
      refine ⟨?_, fun outcome => List.not_mem_nil⟩
      rw [backends_keep]
      by_cases here : tier = other
      · subst here
        rw [standing] at otherStanding
        cases otherStanding
        exact ⟨kept, if_pos rfl, same⟩
      · exact ⟨backend, (if_neg here).trans standing, rfl⟩

/-- A tier gets a backend when its builder comes to one, and not otherwise. -/
theorem next_of_none
    (missing : now.provider.backends.get tier = none)
    (step : Step) :
    ((now.next step).provider.backends.get tier = none ∧
        ∀ backend, ⟨tier, .ok backend⟩ ∉ now.called step) ∨
      ∃ backend kept,
        now.called step = [⟨tier, .ok backend⟩] ∧ (now.provider.routes.get tier).isSome ∧
          (now.next step).provider.backends.get tier = some kept ∧
            kept.withoutCache = backend.withoutCache := by
  have passes := passes now step
  generalize (now.next step).provider = later at passes ⊢
  generalize now.called step = calls at passes ⊢
  cases passes with
  | unneeded idle =>
      exact .inl ⟨missing, fun outcome => List.not_mem_nil⟩
  | unrouted takes otherMissing unrouted =>
      exact .inl ⟨missing, fun outcome => List.not_mem_nil⟩
  | failed takes otherMissing failed =>
      refine .inl ⟨missing, fun backend member => ?_⟩
      cases congrArg Construction.outcome (List.mem_singleton.1 member)
  | @built other backend kept takes otherMissing routed opened same =>
      rw [backends_keep]
      by_cases here : tier = other
      · subst here
        exact .inr ⟨backend, kept, rfl, routed, if_pos rfl, same⟩
      · refine .inl ⟨(if_neg here).trans missing, fun outcome member => ?_⟩
        exact here (congrArg Construction.tier (List.mem_singleton.1 member))
  | @kept other backend kept takes standing same =>
      have different : tier ≠ other := by
        rintro rfl
        rw [missing] at standing
        cases standing
      rw [backends_keep, if_neg different]
      exact .inl ⟨missing, fun outcome => List.not_mem_nil⟩

/-- Without a backend at hand, nothing that is kept changes. -/
theorem backends_next_of_error
    (refused : ∀ tier, step.action.backendTier? = some tier →
      ∃ fault, (now.provider.withBuilders step.builders).backendOf tier = .error fault) :
    (now.next step).provider.backends = now.provider.backends := by
  have passes := passes now step
  generalize (now.next step).provider = later at passes ⊢
  generalize now.called step = calls at passes
  cases passes with
  | unneeded idle =>
      rfl
  | unrouted takes missing unrouted =>
      rfl
  | failed takes missing failed =>
      rfl
  | @built tier backend kept takes missing routed opened same =>
      rcases refused tier takes with ⟨fault, refusal⟩
      have lacks : (now.provider.withBuilders step.builders).backends.get tier = none := missing
      rw [backendOf_of_none lacks, opened] at refusal
      cases refusal
  | @kept tier backend kept takes standing same =>
      rcases refused tier takes with ⟨fault, refusal⟩
      have keeps : (now.provider.withBuilders step.builders).backends.get tier = some backend :=
        standing
      rw [backendOf_of_some keeps] at refusal
      cases refusal

/-- With a backend that is kept, it makes no difference what the builders would come to. -/
theorem next_of_builders
    {backend : Backend}
    (takes : step.action.backendTier? = some tier)
    (standing : now.provider.backends.get tier = some backend)
    (others : Tier → Builder) :
    (now.next { step with builders := others }).provider.backends =
        (now.next step).provider.backends ∧
      (now.next { step with builders := others }).log = (now.next step).log := by
  rcases exists_task takes now.provider with ⟨task, rfl, done⟩
  rcases task.uses now.provider step.network now.log with ⟨later, grown, ended, -⟩
  -- Whatever the builders are, the task runs as it does without them.
  have same (builders : Tier → Builder) :
      now.next { step with builders := builders } = ⟨later.withBuilders builders, grown⟩ := by
    rw [Moment.next, done, task.doneBy_withBuilders standing, ← bind_pure_comp, run_bind, ended]
    rfl
  rw [same others, show now.next step = _ from same step.builders]
  exact ⟨rfl, rfl⟩

/-! ## What runs preserve -/

theorem isSome_routes_after
    (now : Moment)
    (steps : List Step)
    (tier : Tier) :
    ((now.after steps).provider.routes.get tier).isSome =
      (now.provider.routes.get tier).isSome := by
  induction steps generalizing now with
  | nil =>
      rfl
  | cons step rest induction =>
      exact (induction _).trans (isSome_routes_next now step tier)

/-- A backend that is kept stays for good, and its builder is not called again. -/
theorem after_of_some
    {backend : Backend}
    (standing : now.provider.backends.get tier = some backend)
    (steps : List Step) :
    (∃ later,
        (now.after steps).provider.backends.get tier = some later ∧
          later.withoutCache = backend.withoutCache) ∧
      ∀ outcome, ⟨tier, outcome⟩ ∉ now.constructions steps := by
  induction steps generalizing now backend with
  | nil =>
      exact ⟨⟨backend, standing, rfl⟩, fun outcome => List.not_mem_nil⟩
  | cons step rest induction =>
      rcases next_of_some standing step with ⟨⟨later, stands, same⟩, uncalled⟩
      rcases induction stands with ⟨⟨last, lasts, still⟩, never⟩
      refine ⟨⟨last, lasts, still.trans same⟩, fun outcome member => ?_⟩
      rcases List.mem_append.1 member with here | inRest
      · exact uncalled outcome here
      · exact never outcome inRest

/-- A tier whose builder comes to nothing has no backend. -/
theorem after_of_none
    (missing : now.provider.backends.get tier = none)
    {steps : List Step}
    (unbuilt : ∀ backend, ⟨tier, .ok backend⟩ ∉ now.constructions steps) :
    (now.after steps).provider.backends.get tier = none := by
  induction steps generalizing now with
  | nil =>
      exact missing
  | cons step rest induction =>
      rcases next_of_none missing step with
        ⟨stillMissing, -⟩ | ⟨backend, kept, calls, routed, stands, same⟩
      · refine induction stillMissing fun backend member => ?_
        exact unbuilt backend (List.mem_append_right _ member)
      · refine absurd (List.mem_append_left _ ?_) (unbuilt backend)
        rw [calls]
        exact List.mem_singleton_self _

/-- What does not occur in the first part of a list stands in the second. -/
theorem exists_split_of_not_mem
    {α : Type}
    {first second earlier rest : List α}
    {item : α}
    (split : first ++ second = earlier ++ item :: rest)
    (absent : item ∉ first) :
    ∃ between, second = between ++ item :: rest := by
  rcases List.append_eq_append_iff.1 split with ⟨between, -, later⟩ | ⟨overlap, whole, later⟩
  · exact ⟨between, later⟩
  · cases overlap with
    | nil =>
        exact ⟨[], later.symm⟩
    | cons head others =>
        cases later
        refine absurd ?_ absent
        rw [whole]
        exact List.mem_append_right _ List.mem_cons_self

/-- Once a builder came to a backend, this one is kept, and the builder is not called again. -/
theorem after_of_construction
    {steps : List Step}
    {backend : Backend}
    {earlier rest : List Construction}
    (built : now.constructions steps = earlier ++ ⟨tier, .ok backend⟩ :: rest) :
    (∃ kept,
        (now.after steps).provider.backends.get tier = some kept ∧
          kept.withoutCache = backend.withoutCache) ∧
      ∀ outcome, ⟨tier, outcome⟩ ∉ rest := by
  have called : ⟨tier, .ok backend⟩ ∈ now.constructions steps := by
    rw [built]
    exact List.mem_append_right _ List.mem_cons_self
  induction steps generalizing now earlier with
  | nil =>
      cases called
  | cons step others induction =>
      cases standing : now.provider.backends.get tier with
      | some held =>
          exact absurd called ((after_of_some standing (step :: others)).2 _)
      | none =>
          rw [Moment.constructions] at built
          rcases next_of_none standing step with
            ⟨-, unbuilt⟩ | ⟨first, kept, calls, -, stands, same⟩
          · -- The builder comes to the backend in a later step.
            rcases exists_split_of_not_mem built (unbuilt backend) with ⟨between, later⟩
            refine induction later ?_
            rw [later]
            exact List.mem_append_right _ List.mem_cons_self
          · -- It does so in this step, and no call in a later one can be the one that is meant.
            rcases after_of_some stands others with ⟨⟨last, lasts, still⟩, never⟩
            rw [calls] at built
            cases earlier with
            | nil =>
                cases built
                exact ⟨⟨last, lasts, still.trans same⟩, never⟩
            | cons call between =>
                have later : (now.next step).constructions others =
                    between ++ ⟨tier, .ok backend⟩ :: rest :=
                  (List.cons.inj built).2
                refine absurd ?_ (never (.ok backend))
                rw [later]
                exact List.mem_append_right _ List.mem_cons_self

/-- A tier has a backend exactly when it had one, or its builder came to one. -/
theorem isSome_backends_after_iff
    (now : Moment)
    (steps : List Step)
    (tier : Tier) :
    ((now.after steps).provider.backends.get tier).isSome ↔
      (now.provider.backends.get tier).isSome ∨
        ∃ backend, ⟨tier, .ok backend⟩ ∈ now.constructions steps := by
  constructor
  · intro stands
    by_contra neither
    rcases not_or.1 neither with ⟨missing, unbuilt⟩
    rw [after_of_none (Option.not_isSome_iff_eq_none.1 missing) (not_exists.1 unbuilt)] at stands
    cases stands
  · rintro (stands | ⟨backend, member⟩)
    · rcases Option.isSome_iff_exists.1 stands with ⟨backend, standing⟩
      rcases (after_of_some standing steps).1 with ⟨later, lasts, -⟩
      rw [lasts]
      rfl
    · rcases List.append_of_mem member with ⟨earlier, rest, built⟩
      rcases (after_of_construction built).1 with ⟨kept, stands, -⟩
      rw [stands]
      rfl

/-- Backends are kept for tiers with a route only. -/
theorem isSome_routes_of_backends
    (routed : ∀ tier, (now.provider.backends.get tier).isSome →
      (now.provider.routes.get tier).isSome)
    (steps : List Step)
    (stands : ((now.after steps).provider.backends.get tier).isSome) :
    (now.provider.routes.get tier).isSome := by
  induction steps generalizing now with
  | nil =>
      exact routed tier stands
  | cons step rest induction =>
      rw [← isSome_routes_next now step]
      refine induction ?_ stands
      intro other present
      rw [isSome_routes_next]
      cases standing : now.provider.backends.get other with
      | some backend =>
          apply routed
          rw [standing]
          rfl
      | none =>
          rcases next_of_none standing step with
            ⟨missing, -⟩ | ⟨backend, kept, -, isRouted, -, -⟩
          · rw [missing] at present
            cases present
          · exact isRouted

/-! ## States -/

theorem hasBackend_iff
    (provider : Provider) :
    provider.hasBackend ↔ ∃ tier, (provider.backends.get tier).isSome := by
  rw [hasBackend, Bool.or_eq_true]
  constructor
  · rintro (main | test)
    · exact ⟨.mainnet, main⟩
    · exact ⟨.testnet, test⟩
  · rintro ⟨tier, stands⟩
    cases tier with
    | mainnet =>
        exact .inl stands
    | testnet =>
        exact .inr stands

theorem isSupported_iff
    (provider : Provider) :
    provider.isSupported ↔ ∃ tier, (provider.routes.get tier).isSome := by
  rw [isSupported, Bool.or_eq_true]
  constructor
  · rintro (main | test)
    · exact ⟨.mainnet, main⟩
    · exact ⟨.testnet, test⟩
  · rintro ⟨tier, routed⟩
    cases tier with
    | mainnet =>
        exact .inl routed
    | testnet =>
        exact .inr routed

theorem state_eq_ready_iff
    (provider : Provider) :
    provider.state = .ready ↔ provider.hasBackend := by
  rw [state]
  split
  · simp [*]
  · split <;> simp [*]

theorem state_eq_unconfigured_iff
    (provider : Provider) :
    provider.state = .unconfigured ↔ ¬ provider.hasBackend ∧ ¬ provider.isSupported := by
  rw [state]
  split
  · simp [*]
  · split <;> simp [*]

theorem isSupported_after
    (now : Moment)
    (steps : List Step) :
    (now.after steps).provider.isSupported ↔ now.provider.isSupported := by
  simp only [isSupported_iff, isSome_routes_after]

theorem hasBackend_after
    (now : Moment)
    (steps : List Step)
    (ready : now.provider.hasBackend) :
    (now.after steps).provider.hasBackend := by
  rcases (hasBackend_iff _).1 ready with ⟨tier, stands⟩
  exact (hasBackend_iff _).2 ⟨tier, (isSome_backends_after_iff now steps tier).2 (.inl stands)⟩

/-- A provider never goes back to an earlier state. -/
theorem rank_state_le
    (now : Moment)
    (steps : List Step) :
    now.provider.state.rank ≤ (now.after steps).provider.state.rank := by
  have supported := isSupported_after now steps
  have ready := hasBackend_after now steps
  unfold state
  split
  · rw [if_pos (ready ‹_›)]
  · split
    · split
      · decide
      · rw [if_pos (supported.2 ‹_›)]
    · exact Nat.zero_le _

/-! ## The life of a new provider -/

/-- How a provider goes from one state to the next, whatever a host does with it. -/
structure HasLifeCycle
    (start : Moment) :
    Prop where
  /-- It is without configuration for all its life when no tier has a route, and never otherwise. -/
  unconfigured : ∀ steps,
    (start.after steps).provider.state = .unconfigured ↔
      ∀ tier, start.provider.routes.get tier = none
  advances : ∀ steps more,
    (start.after steps).provider.state.rank ≤ (start.after (steps ++ more)).provider.state.rank
  /-- It is ready from the first call of a builder on that came to a backend. -/
  ready : ∀ steps,
    (start.after steps).provider.state = .ready ↔
      ∃ tier backend, ⟨tier, .ok backend⟩ ∈ start.constructions steps
  routed : ∀ steps tier,
    ((start.after steps).provider.backends.get tier).isSome →
    (start.provider.routes.get tier).isSome
  /-- After a builder came to a backend, it is not called again. -/
  builtOnce : ∀ steps tier backend earlier rest,
    start.constructions steps = earlier ++ ⟨tier, .ok backend⟩ :: rest →
    ∀ outcome, ⟨tier, outcome⟩ ∉ rest
  /-- This backend is the one that the tier has from then on, whatever builders would come to. -/
  keptForGood : ∀ steps tier backend,
    ⟨tier, .ok backend⟩ ∈ start.constructions steps →
    ∀ more builders, ∃ kept,
      ((start.after (steps ++ more)).provider.withBuilders builders).backendOf tier =
          .ok (kept, (start.after (steps ++ more)).provider.withBuilders builders) ∧
        kept.withoutCache = backend.withoutCache
  /-- Builders that would come to something else make no difference to what is done with it. -/
  buildersIdle : ∀ steps tier backend,
    ⟨tier, .ok backend⟩ ∈ start.constructions steps →
    ∀ step others, step.action.backendTier? = some tier →
      ((start.after steps).next { step with builders := others }).provider.backends =
          ((start.after steps).next step).provider.backends ∧
        ((start.after steps).next { step with builders := others }).log =
          ((start.after steps).next step).log
  /-- An action that needs no backend, or does not get one, changes none that is kept. -/
  unchanged : ∀ steps step,
    (∀ tier, step.action.backendTier? = some tier → ∃ fault,
      ((start.after steps).provider.withBuilders step.builders).backendOf tier = .error fault) →
    (start.after (steps ++ [step])).provider.backends = (start.after steps).provider.backends

/-- A provider without backends has such a life, whatever its sources and builders. -/
theorem hasLifeCycle_make
    (number : Nat)
    (chain : Chain)
    (settings : Settings)
    (rendering : Rendering)
    (transport : Transport)
    (exposesCalls : Bool)
    (preferred : Candidate)
    (fallbacks : List Candidate)
    (log : Log) :
    HasLifeCycle
      ⟨make number chain settings rendering transport exposesCalls preferred fallbacks, log⟩ := by
  generalize begun : make number chain settings rendering transport exposesCalls preferred
    fallbacks = provider
  have fresh (tier : Tier) : provider.backends.get tier = none := by
    rw [← begun]
    cases tier <;> rfl
  clear begun
  have stands (steps : List Step) (tier : Tier) :
      (((⟨provider, log⟩ : Moment).after steps).provider.backends.get tier).isSome ↔
        ∃ backend, ⟨tier, .ok backend⟩ ∈ (⟨provider, log⟩ : Moment).constructions steps := by
    rw [isSome_backends_after_iff, fresh]
    simp
  have isRouted (steps : List Step) (tier : Tier) :
      (((⟨provider, log⟩ : Moment).after steps).provider.backends.get tier).isSome →
        (provider.routes.get tier).isSome := by
    apply isSome_routes_of_backends
    intro other present
    rw [fresh] at present
    cases present
  constructor
  case unconfigured =>
    intro steps
    rw [state_eq_unconfigured_iff, isSupported_after, isSupported_iff, hasBackend_iff]
    constructor
    · rintro ⟨-, unrouted⟩ tier
      exact Option.not_isSome_iff_eq_none.1 (not_exists.1 unrouted tier)
    · intro unrouted
      constructor
      · rintro ⟨tier, present⟩
        have routed := isRouted steps tier present
        rw [unrouted tier] at routed
        cases routed
      · rintro ⟨tier, routed⟩
        rw [unrouted tier] at routed
        cases routed
  case advances =>
    intro steps more
    rw [Moment.after_append]
    exact rank_state_le _ more
  case ready =>
    intro steps
    rw [state_eq_ready_iff, hasBackend_iff]
    exact exists_congr (stands steps)
  case routed =>
    exact isRouted
  case builtOnce =>
    intro steps tier backend earlier rest built
    exact (after_of_construction built).2
  case keptForGood =>
    intro steps tier backend member more builders
    rcases List.append_of_mem member with ⟨earlier, rest, built⟩
    rcases (after_of_construction built).1 with ⟨kept, standing, same⟩
    rcases (after_of_some standing more).1 with ⟨last, lasts, still⟩
    rw [Moment.after_append]
    exact ⟨last, backendOf_of_some lasts, still.trans same⟩
  case buildersIdle =>
    intro steps tier backend member step others takes
    rcases List.append_of_mem member with ⟨earlier, rest, built⟩
    rcases (after_of_construction built).1 with ⟨kept, standing, -⟩
    exact next_of_builders takes standing others
  case unchanged =>
    intro steps step refused
    rw [Moment.after_append]
    exact backends_next_of_error refused

end Provider

end Holdings
