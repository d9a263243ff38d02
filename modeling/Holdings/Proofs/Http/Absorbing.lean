import Holdings.Proofs.Http.Attribution

/-!
# Routes that absorb faults

Balances, the health of an endpoint and the list of chains are told whatever a
network does: what it does wrong is part of a success.  Such a route goes wrong in
one way only, with an answer that has no written form.  Where every answer has one,
two servers therefore attribute whatever happens to them.
-/

namespace Holdings.Http

open Fetch

/-- The routes that report what a network does wrong as part of a success. -/
def Route.Absorbs : Route → Prop
  | .chains | .balances _ _ | .health _ => True
  | .gasPrice _ | .estimateGas _ | .rpc _ => False

variable
  {registry later : Registry}
  {request : Request}
  {route : Route}
  {network : Network}
  {log grown : Log}

theorem Inquiry.absorbs_put
    {α : Type}
    {question : Fetch (Except Fault α × Registry)}
    (absorbs : question.Absorbs)
    (blamesValues : Bool)
    (body : α → Json) :
    (Inquiry.put blamesValues body question).ask.Absorbs :=
  absorbs.map body

/-- What a route that absorbs faults inquires about absorbs them. -/
theorem absorbs_inquiry
    {asked : Inquiry}
    (absorbs : route.Absorbs)
    (inquires : inquiry registry request route = .ok asked) :
    asked.ask.Absorbs := by
  cases route with
  | chains =>
      cases inquires
      exact Inquiry.absorbs_put (.pure _ _) _ _
  | balances chain address =>
      rcases Outcome.bind_eq_ok.1 inquires with ⟨tier, -, same⟩
      cases same
      exact Inquiry.absorbs_put (registry.absorbs_balances _ _ _) _ _
  | health chain =>
      rcases Outcome.bind_eq_ok.1 inquires with ⟨tier, -, same⟩
      cases same
      exact Inquiry.absorbs_put (registry.absorbs_checkHealth _ _) _ _
  | gasPrice chain =>
      exact absurd absorbs id
  | estimateGas chain =>
      exact absurd absorbs id
  | rpc chain =>
      exact absurd absorbs id

/-- A route that absorbs faults reads no body, so it refuses none. -/
theorem not_refusesUnnameable_of_absorbs
    (target : request.target = .found route)
    (absorbs : route.Absorbs) :
    ¬ RefusesUnnameable registry request := by
  rintro ⟨found, reached, refused⟩
  rw [target] at reached
  cases reached
  have refusedTier (inquire : Tier → Inquiry) :
      (readTier request >>= fun tier => pure (inquire tier)) ≠ .error .internalError := by
    intro refusal
    have unread := Outcome.eq_error_of_bind_pure refusal
    unfold readTier at unread
    split at unread
    · cases unread
    · cases unread
  cases route with
  | chains =>
      cases refused
  | balances chain address =>
      exact refusedTier _ refused
  | health chain =>
      exact refusedTier _ refused
  | gasPrice chain =>
      exact absorbs
  | estimateGas chain =>
      exact absorbs
  | rpc chain =>
      exact absorbs

/-- Whatever a network does, a route that absorbs faults makes a success of it. -/
theorem status_eq_of_absorbs
    {raw : Answer}
    (target : request.target = .found route)
    (absorbs : route.Absorbs)
    (ended : (answerTarget registry request request.target).run network log =
      (.ok (raw, later), grown))
    (called : grown.calls ≠ log.calls) :
    raw.status = 200 := by
  rw [target, answerTarget, answerRoute_eq] at ended
  cases inquires : inquiry registry request route with
  | error refusal =>
      rw [inquires] at ended
      cases ended
      exact absurd rfl called
  | ok asked =>
      rw [inquires] at ended
      rcases bind_run_eq_ok ended with ⟨⟨outcome, last⟩, between, questioned, rest⟩
      cases rest
      cases outcome with
      | ok body =>
          rfl
      | error fault =>
          have still := absorbs_inquiry absorbs inquires network log fault _ _ questioned
          rw [still] at called
          exact absurd rfl called

/-- A route that absorbs faults goes wrong exactly when its answer has no written form. -/
theorem mishandles_iff_of_absorbs
    (target : request.target = .found route)
    (absorbs : route.Absorbs) :
    Mishandles registry request network log ↔
      ∃ raw later grown,
        (answerTarget registry request request.target).run network log =
            (.ok (raw, later), grown) ∧
          ¬ raw.IsWritable := by
  constructor
  · intro mishandles
    cases mishandles with
    | unwritable ended blocked =>
        exact ⟨_, _, _, ended, blocked⟩
    | unnameable refuses =>
        exact absurd refuses (not_refusesUnnameable_of_absorbs target absorbs)
    | misread found inquires ended called foreign =>
        rw [target] at found
        cases found
        have still := absorbs_inquiry absorbs inquires network log _ _ _ ended
        rw [still] at called
        exact absurd rfl called
  · rintro ⟨raw, later, grown, ended, blocked⟩
    exact .unwritable ended blocked

/-- What answers of a route come to under a network has a written form. -/
def AnswersWritably
    (registry : Registry)
    (request : Request)
    (network : Network)
    (log : Log) :
    Prop :=
  ∀ raw later grown,
    (answerTarget registry request request.target).run network log = (.ok (raw, later), grown) →
      raw.IsWritable

theorem not_mishandles_of_absorbs
    (target : request.target = .found route)
    (absorbs : route.Absorbs)
    (writes : AnswersWritably registry request network log) :
    ¬ Mishandles registry request network log := by
  rw [mishandles_iff_of_absorbs target absorbs]
  rintro ⟨raw, later, grown, ended, blocked⟩
  exact blocked (writes raw later grown ended)

/-- A route that absorbs faults is attributed right whatever two networks do. -/
theorem attributed_of_absorbs
    {settings : Settings}
    {convertUnits : Bool}
    {transport : Transport}
    {left right : Registry}
    {leftNetwork rightNetwork : Network}
    {leftLog rightLog : Log}
    (leftReached : Reached (.make settings convertUnits transport .standard) left)
    (rightReached : Reached (.make settings convertUnits transport .standard) right)
    (target : request.target = .found route)
    (absorbs : route.Absorbs)
    (leftWrites : AnswersWritably left request leftNetwork leftLog)
    (rightWrites : AnswersWritably right request rightNetwork rightLog) :
    Attributed left right request leftNetwork rightNetwork leftLog rightLog :=
  attributed_of_not_mishandles leftReached rightReached
    (not_mishandles_of_absorbs target absorbs leftWrites)
    (not_mishandles_of_absorbs target absorbs rightWrites)

end Holdings.Http
