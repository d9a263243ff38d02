import Holdings.Http.Answer
import Holdings.Proofs.Provider.Questions
import Holdings.Proofs.Registry.Questions
import Holdings.Proofs.Schema.Transaction

/-!
# What a request inquires about

A route either refuses a request for the form of its query or its body, or it
puts one question to the registry and turns the outcome into an answer.  Of two
registries with the same start the same question is either settled at once, with
the same outcome for both, or it consults the network for both.
-/

namespace Holdings.Http

open Fetch

variable {α : Type}

/-- A question to the registry, and whether the request is to blame for unacceptable values. -/
structure Inquiry where
  blamesValues : Bool
  ask : Fetch (Except Fault Json × Registry)

namespace Inquiry

/-- The answer to a fault. -/
def onFault
    (inquiry : Inquiry) :
    Fault → Answer :=
  match inquiry.blamesValues with
  | true => .ofEstimateFault
  | false => .ofFault

/-- The answer to whatever comes out of the question. -/
def answer
    (inquiry : Inquiry) :
    Fetch (Answer × Registry) := do
  let asked ← inquiry.ask
  return (.ofOutcome inquiry.onFault id asked.1, asked.2)

/-- A question whose values have a public form. -/
def put
    (blamesValues : Bool)
    (body : α → Json)
    (question : Fetch (Except Fault α × Registry)) :
    Inquiry where
  blamesValues := blamesValues
  ask := do
    let asked ← question
    return (asked.1.map body, asked.2)

end Inquiry

/-- The tier that a query names, or the refusal of the query. -/
def readTier
    (request : Request) :
    Except Answer Tier :=
  match requestTier request with
  | some tier => .ok tier
  | none => .error .unprocessable

/-- What a route inquires about, unless the request does not have the right form. -/
def inquiry
    (registry : Registry)
    (request : Request) :
    Route → Except Answer Inquiry
  | .chains =>
    return .put false (fun listed => .array (listed.map ChainSummary.toJson))
      (return registry.listChains)
  | .balances chain address => do
    let tier ← readTier request
    return .put false Balances.toJson
      (registry.balances (pathKey chain) (.text address) (tierValue tier))
  | .gasPrice chain => do
    let tier ← readTier request
    return .put false (fun price => .object [("gasPrice", .text price)])
      (registry.gasPrice (pathKey chain) (tierValue tier))
  | .estimateGas chain => do
    let read ← readModel request Schema.transactionRequest
    return .put true (fun gas => .object [("gas", .text gas)])
      (registry.estimateGas (pathKey chain) read.1 (tierValue read.2))
  | .rpc chain => do
    let read ← readModel request Schema.rpcRequest
    return .put false finiteValue
      (registry.callMethod (pathKey chain) (read.1.getD "method").shown (read.1.getD "params")
        (tierValue read.2))
  | .health chain => do
    let tier ← readTier request
    return .put false (healthBody chain tier)
      (registry.checkHealth (pathKey chain) (tierValue tier))

/-! ## Bodies of requests -/

/-- What can be read of a request that needs a value of a model in its body. -/
theorem readModel_cases
    (request : Request)
    (model : Schema.Model) :
    (∃ refusal,
        readBody request = .error refusal ∧ readModel request model = .error refusal) ∨
      (∃ blamed, readModel request model = .error (refusal blamed)) ∨
        readModel request model = .error .unprocessable ∨
          ∃ body record tier,
            model.validate body = .ok record ∧
              readModel request model = .ok (record.toJson false, tier) := by
  unfold readModel
  cases readBody request with
  | error refusal =>
      exact Or.inl ⟨refusal, rfl, rfl⟩
  | ok body =>
      right
      dsimp only [bind, Except.bind]
      cases taken : model.validate body with
      | error fault =>
          left
          exact ⟨_, rfl⟩
      | ok record =>
          right
          cases requestTier request with
          | none =>
              left
              rfl
          | some tier =>
              right
              exact ⟨body, record, tier, taken, rfl⟩

/-! ## Routes as inquiries -/

theorem ofOutcome_map
    (onFault : Fault → Answer)
    (body : α → Json)
    (outcome : Except Fault α) :
    Answer.ofOutcome onFault id (outcome.map body) = Answer.ofOutcome onFault body outcome := by
  cases outcome <;> rfl

theorem Inquiry.answer_put
    (blamesValues : Bool)
    (body : α → Json)
    (question : Fetch (Except Fault α × Registry)) :
    (Inquiry.put blamesValues body question).answer =
      question >>= fun asked =>
        pure (.ofOutcome (Inquiry.put blamesValues body question).onFault body asked.1,
          asked.2) := by
  rw [Inquiry.answer]
  show (question >>= fun asked => pure (asked.1.map body, asked.2)) >>= _ = _
  rw [bind_assoc]
  congr 1
  funext asked
  rw [pure_bind, ofOutcome_map]

/-- A handler that needs a tier answers what its question inquires about. -/
theorem withTier_eq
    (registry : Registry)
    (request : Request)
    {handle : Tier → Fetch (Answer × Registry)}
    {inquire : Tier → Inquiry}
    (same : ∀ tier, handle tier = (inquire tier).answer) :
    withTier registry request handle =
      match readTier request >>= fun tier => pure (inquire tier) with
      | .ok inquiry => inquiry.answer
      | .error refusal => pure (refusal, registry) := by
  unfold withTier readTier
  cases requestTier request with
  | none =>
      rfl
  | some tier =>
      exact same tier

/-- A handler that needs a body answers what its question inquires about. -/
theorem withModel_eq
    (registry : Registry)
    (request : Request)
    (model : Schema.Model)
    {handle : Json → Tier → Fetch (Answer × Registry)}
    {inquire : Json × Tier → Inquiry}
    (same : ∀ value tier, handle value tier = (inquire (value, tier)).answer) :
    withModel registry request model handle =
      match readModel request model >>= fun read => pure (inquire read) with
      | .ok inquiry => inquiry.answer
      | .error refusal => pure (refusal, registry) := by
  unfold withModel
  cases readModel request model with
  | error refusal =>
      rfl
  | ok read =>
      exact same read.1 read.2

/-- A route refuses a request, or answers what it inquires about. -/
theorem answerRoute_eq
    (registry : Registry)
    (request : Request)
    (route : Route) :
    answerRoute registry request route =
      match inquiry registry request route with
      | .ok inquiry => inquiry.answer
      | .error refusal => pure (refusal, registry) := by
  cases route with
  | chains =>
      show _ = (Inquiry.put _ _ _).answer
      rw [Inquiry.answer_put]
      rfl
  | balances chain address =>
      apply withTier_eq
      intro tier
      rw [Inquiry.answer_put]
      rfl
  | gasPrice chain =>
      apply withTier_eq
      intro tier
      rw [Inquiry.answer_put]
      rfl
  | estimateGas chain =>
      apply withModel_eq
      intro transaction tier
      rw [Inquiry.answer_put]
      rfl
  | rpc chain =>
      apply withModel_eq
      intro call tier
      rw [Inquiry.answer_put]
      rfl
  | health chain =>
      apply withTier_eq
      intro tier
      rw [Inquiry.answer_put]
      rfl

end Holdings.Http
