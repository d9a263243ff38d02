import Holdings.Network.Basic

/-!
# What a computation may ask and record

Every computation that asks a network is put together from single calls, single
events and outcomes that need no network.  A derivation of `Fetch.Within`
follows this composition and bounds the calls and the events that occur in it.

Two facts about whole runs come out of such a derivation by induction.  A run
only adds to the log, and what it adds is within the bounds.  And if two
networks agree on the calls within the bounds, then the runs with both have the
same outcome, whatever else differs between the networks.
-/

namespace Holdings

/-! ## Networks that agree on some calls -/

/-- The calls of a log that are chosen, in order. -/
def Log.chosen
    (choice : Call → Prop)
    [DecidablePred choice]
    (log : Log) :
    List Call :=
  log.calls.filter choice

/--
Two networks give the same replies to the chosen calls, which may depend on the earlier
calls among them, but on no others.
-/
def AgreeOn
    (choice : Call → Prop)
    [DecidablePred choice]
    (left right : Network) :
    Prop :=
  ∀ earlier others call,
    choice call →
      earlier.filter choice = others.filter choice →
        left earlier call = right others call

namespace Fetch

variable {α β γ : Type}

/-! ## Laws of sequences -/

theorem run_bind_assoc
    (fetch : Fetch α)
    (next : α → Fetch β)
    (last : β → Fetch γ)
    (network : Network)
    (log : Log) :
    (fetch >>= next >>= last).run network log =
      (fetch >>= fun value => next value >>= last).run network log := by
  simp only [run_bind]
  cases fetch.run network log with
  | mk outcome later =>
      cases outcome with
      | error fault =>
          rfl
      | ok value =>
          rfl

theorem run_bind_pure
    (fetch : Fetch α)
    (network : Network)
    (log : Log) :
    (fetch >>= pure).run network log = fetch.run network log := by
  rw [run_bind]
  cases fetch.run network log with
  | mk outcome later =>
      cases outcome with
      | error fault =>
          rfl
      | ok value =>
          rfl

instance : LawfulMonad Fetch :=
  LawfulMonad.mk' Fetch
    (fun fetch => funext fun network => funext fun log => run_bind_pure fetch network log)
    (fun _ _ => rfl)
    (fun fetch next last =>
      funext fun network => funext fun log => run_bind_assoc fetch next last network log)

theorem liftM_ok_bind
    (value : α)
    (next : α → Fetch β) :
    (liftM (Except.ok value : Except Fault α) : Fetch α) >>= next = next value :=
  rfl

theorem liftM_bind
    (outcome : Except Fault α)
    (next : α → Except Fault β) :
    (liftM (outcome >>= next) : Fetch β) =
      liftM outcome >>= fun value => (liftM (next value) : Fetch β) := by
  cases outcome with
  | error fault =>
      rfl
  | ok value =>
      rfl

theorem bind_run_eq_ok
    {fetch : Fetch α}
    {next : α → Fetch β}
    {network : Network}
    {log grown : Log}
    {result : β}
    (ended : (fetch >>= next).run network log = (.ok result, grown)) :
    ∃ value later,
      fetch.run network log = (.ok value, later) ∧
        (next value).run network later = (.ok result, grown) := by
  rw [run_bind] at ended
  cases first : fetch.run network log with
  | mk outcome later =>
      rw [first] at ended
      cases outcome with
      | error fault =>
          cases ended
      | ok value =>
          exact ⟨value, later, rfl, ended⟩

/-! ## Derivations -/

/-- A computation that is put together from allowed calls and allowed events. -/
inductive Within
    (calls : Call → Prop)
    (events : Event → Prop) :
    {α : Type} → Fetch α → Prop where
  | ofExcept
      {α : Type}
      (outcome : Except Fault α) :
      Within calls events (Fetch.ofExcept outcome)
  | ask
      {call : Call}
      (allowed : calls call) :
      Within calls events (Fetch.ask call)
  | record
      {event : Event}
      (allowed : events event) :
      Within calls events (Fetch.record event)
  | attempt
      {α : Type}
      {fetch : Fetch α}
      (inner : Within calls events fetch) :
      Within calls events fetch.attempt
  | bind
      {α β : Type}
      {fetch : Fetch α}
      {next : α → Fetch β}
      (first : Within calls events fetch)
      (rest : ∀ value, Within calls events (next value)) :
      Within calls events (fetch >>= next)

namespace Within

variable {calls : Call → Prop} {events : Event → Prop}

theorem pure
    (value : α) :
    Within calls events (Pure.pure value : Fetch α) :=
  .ofExcept (.ok value)

theorem lift
    (outcome : Except Fault α) :
    Within calls events (liftM outcome : Fetch α) :=
  .ofExcept outcome

theorem fail
    (fault : Fault) :
    Within calls events (Fetch.fail fault : Fetch α) :=
  .ofExcept (.error fault)

/-- A step that needs no network allows whatever comes after it. -/
theorem lift_bind
    (outcome : Except Fault α)
    {next : α → Fetch β}
    (rest : ∀ value, Within calls events (next value)) :
    Within calls events (liftM outcome >>= next) :=
  .bind (.lift outcome) rest

theorem mono
    {moreCalls : Call → Prop}
    {moreEvents : Event → Prop}
    {fetch : Fetch α}
    (within : fetch.Within calls events)
    (callsAllowed : ∀ call, calls call → moreCalls call)
    (eventsAllowed : ∀ event, events event → moreEvents event) :
    fetch.Within moreCalls moreEvents := by
  induction within with
  | ofExcept outcome =>
      exact .ofExcept outcome
  | ask allowed =>
      exact .ask (callsAllowed _ allowed)
  | record allowed =>
      exact .record (eventsAllowed _ allowed)
  | attempt _ inner =>
      exact .attempt inner
  | bind _ _ first rest =>
      exact .bind first rest

theorem widen
    {moreCalls : Call → Prop}
    {fetch : Fetch α}
    (within : fetch.Within calls events)
    (callsAllowed : ∀ call, calls call → moreCalls call) :
    fetch.Within moreCalls events :=
  within.mono callsAllowed fun _ recorded => recorded

/-! ## What a run adds to the log -/

/-- A run only adds to the log, and what it adds is allowed. -/
theorem exists_added
    {fetch : Fetch α}
    (within : fetch.Within calls events)
    (network : Network)
    (log : Log) :
    ∃ newCalls newEvents,
      (fetch.run network log).2 =
          ⟨log.calls ++ newCalls, log.events ++ newEvents⟩ ∧
        (∀ call ∈ newCalls, calls call) ∧
        ∀ event ∈ newEvents, events event := by
  induction within generalizing log with
  | ofExcept outcome =>
      refine ⟨[], [], ?_, by simp, by simp⟩
      simp
  | @ask call allowed =>
      refine ⟨[call], [], ?_, by simpa using allowed, by simp⟩
      simp
  | @record event allowed =>
      refine ⟨[], [event], ?_, by simp, by simpa using allowed⟩
      simp
  | attempt _ inner =>
      exact inner log
  | @bind α β fetch next _ _ first rest =>
      rcases first log with ⟨newCalls, newEvents, grown, callsAllowed, eventsAllowed⟩
      rw [run_bind]
      cases outcome : fetch.run network log with
      | mk result later =>
          rw [outcome] at grown
          cases result with
          | error fault =>
              exact ⟨newCalls, newEvents, grown, callsAllowed, eventsAllowed⟩
          | ok value =>
              rcases rest value later with
                ⟨moreCalls, moreEvents, grownOn, moreAllowed, moreNoted⟩
              have both : later = ⟨log.calls ++ newCalls, log.events ++ newEvents⟩ := grown
              refine ⟨newCalls ++ moreCalls, newEvents ++ moreEvents, ?_, ?_, ?_⟩
              · rw [grownOn, both, List.append_assoc, List.append_assoc]
              · intro call member
                rcases List.mem_append.mp member with old | new
                · exact callsAllowed call old
                · exact moreAllowed call new
              · intro event member
                rcases List.mem_append.mp member with old | new
                · exact eventsAllowed event old
                · exact moreNoted event new

/-- A run that makes no chosen call leaves the chosen calls of the log as they are. -/
theorem chosen_run
    {choice : Call → Prop}
    [DecidablePred choice]
    {fetch : Fetch α}
    (within : fetch.Within calls events)
    (apart : ∀ call, calls call → ¬ choice call)
    (network : Network)
    (log : Log) :
    (fetch.run network log).2.chosen choice = log.chosen choice := by
  rcases within.exists_added network log with ⟨newCalls, newEvents, grown, callsAllowed, -⟩
  have none : newCalls.filter choice = [] := by
    rw [List.filter_eq_nil_iff]
    intro call member
    simpa using apart call (callsAllowed call member)
  unfold Log.chosen
  rw [grown, List.filter_append, none, List.append_nil]

theorem length_calls_le
    {fetch : Fetch α}
    (within : fetch.Within calls events)
    (network : Network)
    (log : Log) :
    log.calls.length ≤ (fetch.run network log).2.calls.length := by
  rcases within.exists_added network log with ⟨newCalls, newEvents, grown, -, -⟩
  rw [grown, List.length_append]
  exact Nat.le_add_right _ _

/-! ## Runs with two networks -/

/--
Networks that agree on all calls of a computation make no difference to its outcome, and
make it go through the same calls.
-/
theorem agree
    {choice : Call → Prop}
    [DecidablePred choice]
    {fetch : Fetch α}
    (within : fetch.Within choice events)
    {left right : Network}
    (networks : AgreeOn choice left right)
    {first second : Log}
    (logs : first.chosen choice = second.chosen choice) :
    (fetch.run left first).1 = (fetch.run right second).1 ∧
      (fetch.run left first).2.chosen choice =
        (fetch.run right second).2.chosen choice := by
  induction within generalizing first second with
  | ofExcept outcome =>
      exact ⟨rfl, logs⟩
  | @ask call allowed =>
      constructor
      · exact congrArg Except.ok (networks _ _ call allowed logs)
      · unfold Log.chosen at logs ⊢
        simp only [run_ask, List.filter_append, logs]
  | record allowed =>
      exact ⟨rfl, logs⟩
  | attempt _ inner =>
      rcases inner logs with ⟨outcomes, histories⟩
      exact ⟨congrArg Except.ok outcomes, histories⟩
  | @bind α β fetch next _ _ here rest =>
      rcases here logs with ⟨outcomes, histories⟩
      rw [run_bind, run_bind]
      cases leftRun : fetch.run left first with
      | mk leftOutcome leftLog =>
          cases rightRun : fetch.run right second with
          | mk rightOutcome rightLog =>
              rw [leftRun, rightRun] at outcomes histories
              cases outcomes
              cases leftOutcome with
              | error fault =>
                  exact ⟨rfl, histories⟩
              | ok value =>
                  exact rest value histories

/-- What comes out of a run does not depend on the events before it. -/
theorem outcome_eq_of_calls_eq
    {fetch : Fetch α}
    (within : fetch.Within calls events)
    (network : Network)
    {first second : Log}
    (sameCalls : first.calls = second.calls) :
    (fetch.run network first).1 = (fetch.run network second).1 := by
  have anywhere : fetch.Within (fun _ => True) events :=
    within.widen fun _ _ => trivial
  have itself : AgreeOn (fun _ => True) network network := by
    intro earlier others call _ same
    have whole (list : List Call) : list.filter (fun _ => decide True) = list := by
      simp
    rw [whole, whole] at same
    rw [same]
  apply And.left
  apply anywhere.agree itself
  unfold Log.chosen
  rw [sameCalls]

end Within

end Fetch

end Holdings
