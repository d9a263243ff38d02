import Holdings.Proofs.Network.Within

/-!
# Computations that ask and computations that return

Whether a computation makes a call, and whether it comes to a value, can be told
from how it is put together.  A question whose answer may be a fault consults the
network when it gives no fault of its own accord: before a fault there is a call.
-/

namespace Holdings.Fetch

variable {α β γ : Type}

/-! ## Computations that ask -/

/-- A computation that makes a call in every run, whatever comes out of it. -/
def Asks
    (fetch : Fetch α) :
    Prop :=
  ∀ network log, log.calls.length < (fetch.run network log).2.calls.length

namespace Asks

theorem ask
    (call : Call) :
    (Fetch.ask call).Asks := by
  intro network log
  rw [run_ask, List.length_append]
  exact Nat.lt_add_one _

/-- What asks at the beginning asks in every run, however it goes on. -/
theorem bind
    {fetch : Fetch α}
    {next : α → Fetch β}
    (first : fetch.Asks)
    (rest : ∀ value, (next value).Within (fun _ => True) fun _ => True) :
    (fetch >>= next).Asks := by
  intro network log
  have asked := first network log
  rw [run_bind]
  cases here : fetch.run network log with
  | mk outcome later =>
      rw [here] at asked
      cases outcome with
      | error fault =>
          exact asked
      | ok value =>
          exact Nat.lt_of_lt_of_le asked ((rest value).length_calls_le network later)

theorem attempt
    {fetch : Fetch α}
    (asks : fetch.Asks) :
    fetch.attempt.Asks :=
  asks

theorem calls_ne
    {fetch : Fetch α}
    (asks : fetch.Asks)
    {network : Network}
    {log grown : Log}
    {outcome : Except Fault α}
    (ended : fetch.run network log = (outcome, grown)) :
    grown.calls ≠ log.calls := by
  have asked := asks network log
  rw [ended] at asked
  intro same
  rw [same] at asked
  exact Nat.lt_irrefl _ asked

end Asks

/-! ## Computations that return -/

/-- A computation that comes to a value in every run. -/
def Returns
    (fetch : Fetch α) :
    Prop :=
  ∀ network log, ∃ value grown, fetch.run network log = (.ok value, grown)

namespace Returns

theorem pure
    (value : α) :
    (Pure.pure value : Fetch α).Returns :=
  fun _ log => ⟨value, log, rfl⟩

theorem attempt
    (fetch : Fetch α) :
    fetch.attempt.Returns :=
  fun network log => ⟨_, _, fetch.run_attempt network log⟩

theorem record
    (event : Event) :
    (Fetch.record event).Returns :=
  fun network log => ⟨(), _, run_record event network log⟩

theorem bind
    {fetch : Fetch α}
    {next : α → Fetch β}
    (first : fetch.Returns)
    (rest : ∀ value, (next value).Returns) :
    (fetch >>= next).Returns := by
  intro network log
  rcases first network log with ⟨value, later, here⟩
  rcases rest value network later with ⟨result, grown, there⟩
  refine ⟨result, grown, ?_⟩
  rw [run_bind, here]
  exact there

end Returns

/-! ## Questions that consult the network -/

/-- A question that comes to an outcome in every run, and to a fault only after a call. -/
def Consults
    (question : Fetch (Except Fault α × β)) :
    Prop :=
  ∀ network log, ∃ outcome later grown,
    question.run network log = (.ok (outcome, later), grown) ∧
      ∀ fault, outcome = .error fault → grown.calls ≠ log.calls

namespace Consults

theorem of_asks
    {question : Fetch (Except Fault α × β)}
    (returns : question.Returns)
    (asks : question.Asks) :
    question.Consults := by
  intro network log
  rcases returns network log with ⟨⟨outcome, later⟩, grown, ended⟩
  exact ⟨outcome, later, grown, ended, fun _ _ => asks.calls_ne ended⟩

/-- A question that is always answered consults the network, whether or not it asks. -/
theorem of_ok
    {fetch : Fetch α}
    (returns : fetch.Returns)
    (after : α → γ × β) :
    (fetch >>= fun value =>
      (Pure.pure (.ok (after value).1, (after value).2) :
        Fetch (Except Fault γ × β))).Consults := by
  intro network log
  rcases returns network log with ⟨value, grown, ended⟩
  refine ⟨.ok (after value).1, (after value).2, grown, ?_, ?_⟩
  · rw [run_bind, ended]
    rfl
  · intro fault refused
    cases refused

/-- A computation that comes to a value consults the network when its faults are caught. -/
theorem of_attempt
    {fetch : Fetch α}
    (returns : fetch.Returns)
    (later : β) :
    (fetch.attempt >>= fun outcome =>
      (Pure.pure (outcome, later) : Fetch (Except Fault α × β))).Consults := by
  intro network log
  rcases returns network log with ⟨value, grown, ended⟩
  refine ⟨.ok value, later, grown, ?_, ?_⟩
  · rw [run_bind, run_attempt, ended]
    rfl
  · intro fault refused
    cases refused

/-- What is done with the value of an answer does not matter. -/
theorem map
    {question : Fetch (Except Fault α × β)}
    (consults : question.Consults)
    (body : α → γ) :
    (question >>= fun answered =>
      (Pure.pure (answered.1.map body, answered.2) :
        Fetch (Except Fault γ × β))).Consults := by
  intro network log
  rcases consults network log with ⟨outcome, later, grown, ended, afterCall⟩
  refine ⟨outcome.map body, later, grown, ?_, ?_⟩
  · rw [run_bind, ended]
    rfl
  · intro fault refused
    cases outcome with
    | error cause =>
        exact afterCall cause rfl
    | ok value =>
        cases refused

/-- What is kept beside the outcome does not matter. -/
theorem keep
    {question : Fetch (Except Fault α × β)}
    (consults : question.Consults)
    (after : β → γ) :
    (question >>= fun answered =>
      (Pure.pure (answered.1, after answered.2) :
        Fetch (Except Fault α × γ))).Consults := by
  intro network log
  rcases consults network log with ⟨outcome, later, grown, ended, afterCall⟩
  refine ⟨outcome, after later, grown, ?_, afterCall⟩
  rw [run_bind, ended]
  rfl

end Consults

/-! ## Questions that absorb faults -/

/-- A question that comes to a fault only where nobody is asked. -/
def Absorbs
    (question : Fetch (Except Fault α × β)) :
    Prop :=
  ∀ network log fault later grown,
    question.run network log = (.ok (.error fault, later), grown) → grown = log

namespace Absorbs

theorem pure
    (outcome : Except Fault α)
    (later : β) :
    (Pure.pure (outcome, later) : Fetch (Except Fault α × β)).Absorbs := by
  intro network log fault last grown ended
  cases ended
  rfl

/-- A question without faults of its own absorbs those of the network. -/
theorem of_ok
    (fetch : Fetch α)
    (after : α → γ × β) :
    (fetch >>= fun value =>
      (Pure.pure (.ok (after value).1, (after value).2) :
        Fetch (Except Fault γ × β))).Absorbs := by
  intro network log fault later grown ended
  rcases bind_run_eq_ok ended with ⟨value, between, -, rest⟩
  cases rest

/-- A computation that comes to a value absorbs faults when they are caught. -/
theorem of_attempt
    {fetch : Fetch α}
    (returns : fetch.Returns)
    (later : β) :
    (fetch.attempt >>= fun outcome =>
      (Pure.pure (outcome, later) : Fetch (Except Fault α × β))).Absorbs := by
  intro network log fault last grown ended
  rcases bind_run_eq_ok ended with ⟨outcome, between, attempted, rest⟩
  rcases returns network log with ⟨value, reached, returned⟩
  rw [run_attempt, returned] at attempted
  cases attempted
  cases rest

theorem map
    {question : Fetch (Except Fault α × β)}
    (absorbs : question.Absorbs)
    (body : α → γ) :
    (question >>= fun answered =>
      (Pure.pure (answered.1.map body, answered.2) :
        Fetch (Except Fault γ × β))).Absorbs := by
  intro network log fault later grown ended
  rcases bind_run_eq_ok ended with ⟨⟨outcome, last⟩, between, questioned, rest⟩
  cases outcome with
  | ok value =>
      cases rest
  | error cause =>
      cases rest
      exact absorbs network log _ _ _ questioned

theorem keep
    {question : Fetch (Except Fault α × β)}
    (absorbs : question.Absorbs)
    (after : β → γ) :
    (question >>= fun answered =>
      (Pure.pure (answered.1, after answered.2) :
        Fetch (Except Fault α × γ))).Absorbs := by
  intro network log fault later grown ended
  rcases bind_run_eq_ok ended with ⟨⟨outcome, last⟩, between, questioned, rest⟩
  cases rest
  exact absorbs network log _ _ _ questioned

end Absorbs

/-! ## Two questions -/

/--
Two questions that are settled without a call and with the same outcome, a fault being of a
class that is accounted for, or that both consult the network.
-/
inductive Alike
    (accounted : FaultClass → Prop)
    (left right : Fetch (Except Fault α × β)) :
    Prop where
  | settled
      {outcome : Except Fault α}
      {leftLater rightLater : β}
      (atLeft : left = Pure.pure (outcome, leftLater))
      (atRight : right = Pure.pure (outcome, rightLater))
      (account : ∀ fault, outcome = .error fault → accounted fault.kind)
  | consulting
      (atLeft : left.Consults)
      (atRight : right.Consults)

namespace Alike

variable {accounted : FaultClass → Prop} {left right : Fetch (Except Fault α × β)}

theorem of_ok
    {value : α}
    {leftLater rightLater : β}
    (atLeft : left = Pure.pure (.ok value, leftLater))
    (atRight : right = Pure.pure (.ok value, rightLater)) :
    Alike accounted left right := by
  refine .settled atLeft atRight ?_
  intro fault refused
  cases refused

theorem of_fault
    {fault : Fault}
    {leftLater rightLater : β}
    (atLeft : left = Pure.pure (.error fault, leftLater))
    (atRight : right = Pure.pure (.error fault, rightLater))
    (account : accounted fault.kind) :
    Alike accounted left right := by
  refine .settled atLeft atRight ?_
  intro cause refused
  cases refused
  exact account

theorem map
    (alike : Alike accounted left right)
    (body : α → γ) :
    Alike accounted
      (left >>= fun answered => Pure.pure (answered.1.map body, answered.2))
      (right >>= fun answered => Pure.pure (answered.1.map body, answered.2)) := by
  cases alike with
  | @settled outcome leftLater rightLater atLeft atRight account =>
      rw [atLeft, atRight]
      refine .settled rfl rfl ?_
      intro fault refused
      cases outcome with
      | error cause =>
          cases refused
          exact account fault rfl
      | ok value =>
          cases refused
  | consulting atLeft atRight =>
      exact .consulting (atLeft.map body) (atRight.map body)

theorem keep
    (alike : Alike accounted left right)
    (leftAfter rightAfter : β → γ) :
    Alike accounted
      (left >>= fun answered => Pure.pure (answered.1, leftAfter answered.2))
      (right >>= fun answered => Pure.pure (answered.1, rightAfter answered.2)) := by
  cases alike with
  | settled atLeft atRight account =>
      rw [atLeft, atRight]
      exact .settled rfl rfl account
  | consulting atLeft atRight =>
      exact .consulting (atLeft.keep leftAfter) (atRight.keep rightAfter)

end Alike

end Holdings.Fetch
