import Holdings.Proofs.Http.Inquiry

/-!
# Inquiries of registries with the same start

What a request comes to without a call is decided by the request and by the start
of the registry: two registries with the same start settle it at once and in the
same way, or both consult the network.  A fault that settles a request has a
status of its own.
-/

namespace Holdings.Http

open Fetch

/-! ## Statuses of faults -/

/-- The status of the answer to a fault, by the class of the fault. -/
def Inquiry.statusOf
    (inquiry : Inquiry) :
    FaultClass → Nat
  | .unsupportedChain => 404
  | .configuration => 503
  | .transport => 502
  | .value => if inquiry.blamesValues then 400 else 500
  | .other => 500

theorem Inquiry.status_onFault
    (inquiry : Inquiry)
    (fault : Fault) :
    (inquiry.onFault fault).status = inquiry.statusOf fault.kind := by
  cases blames : inquiry.blamesValues with
  | true =>
      simp only [onFault, blames, Answer.ofEstimateFault, Answer.ofFault, statusOf]
      cases fault.kind <;> rfl
  | false =>
      simp only [onFault, blames, Answer.ofFault, statusOf]
      cases fault.kind <;> rfl

/-- Faults of the network, and no others, make a bad gateway; no fault makes a success. -/
theorem Inquiry.statusOf_ne
    (inquiry : Inquiry)
    {kind : FaultClass}
    (notTransport : kind ≠ .transport) :
    inquiry.statusOf kind ≠ 200 ∧ inquiry.statusOf kind ≠ 502 := by
  cases kind with
  | transport =>
      exact absurd rfl notTransport
  | value =>
      cases blames : inquiry.blamesValues <;>
        simp [statusOf, blames]
  | _ =>
      simp [statusOf]

/-! ## Two inquiries -/

/-- Two inquiries that answer faults in the same way and whose questions are alike. -/
structure Inquiry.Alike
    (left right : Inquiry) :
    Prop where
  sameBlame : left.blamesValues = right.blamesValues
  questions : Fetch.Alike (fun kind => left.statusOf kind ≠ 500) left.ask right.ask

/-- Inquiries that are alike come to one answer, which is accounted for, or both consult. -/
theorem Inquiry.Alike.answer
    {left right : Inquiry}
    (alike : left.Alike right) :
    (∃ answer leftLater rightLater,
        left.answer = pure (answer, leftLater) ∧ right.answer = pure (answer, rightLater) ∧
          answer.status ≠ 500) ∨
      left.ask.Consults ∧ right.ask.Consults := by
  have sameFaults : right.onFault = left.onFault := by
    unfold onFault
    rw [alike.sameBlame]
  cases alike.questions with
  | @settled outcome leftLater rightLater atLeft atRight account =>
      left
      refine ⟨.ofOutcome left.onFault id outcome, leftLater, rightLater, ?_, ?_, ?_⟩
      · rw [Inquiry.answer, atLeft]
        rfl
      · rw [Inquiry.answer, atRight, sameFaults]
        rfl
      · cases outcome with
        | ok body =>
            exact (by decide : 200 ≠ 500)
        | error fault =>
            have accounted := account fault rfl
            rw [← left.status_onFault] at accounted
            exact accounted
  | consulting atLeft atRight =>
      exact Or.inr ⟨atLeft, atRight⟩

/-- Questions that are alike make inquiries that are alike. -/
theorem Inquiry.Alike.put
    {α : Type}
    {blamesValues : Bool}
    {left right : Fetch (Except Fault α × Registry)}
    {body : α → Json}
    (questions : Fetch.Alike
      (fun kind => (Inquiry.put blamesValues body left).statusOf kind ≠ 500) left right) :
    (Inquiry.put blamesValues body left).Alike (Inquiry.put blamesValues body right) :=
  ⟨rfl, questions.map body⟩

/-- What is read of a request makes it refused in two places, or alike in both. -/
theorem alike_of_read
    {α : Type}
    (read : Except Answer α)
    {left right : α → Inquiry}
    (each : ∀ value, read = .ok value → (left value).Alike (right value)) :
    (∃ refusal,
        (read >>= fun value => pure (left value)) = .error refusal ∧
          (read >>= fun value => pure (right value)) = .error refusal) ∨
      ∃ leftInquiry rightInquiry,
        (read >>= fun value => pure (left value)) = .ok leftInquiry ∧
          (read >>= fun value => pure (right value)) = .ok rightInquiry ∧
            leftInquiry.Alike rightInquiry := by
  cases read with
  | error refusal =>
      left
      exact ⟨refusal, rfl, rfl⟩
  | ok value =>
      right
      exact ⟨_, _, rfl, rfl, each value rfl⟩

/-! ## The inquiries of the routes -/

/-- The name under which a registry knows the chain of a path. -/
theorem name_pathKey
    (chain : String) :
    (pathKey chain).name = .ok (Text.lowercase (Text.trim chain)) :=
  rfl

theorem isTransaction_of_readModel
    {request : Request}
    {read : Json × Tier}
    (passed : readModel request Schema.transactionRequest = .ok read) :
    read.1.IsTransaction := by
  rcases readModel_cases request Schema.transactionRequest with
    ⟨refusal, -, refused⟩ | ⟨blamed, refused⟩ | refused | ⟨body, record, tier, taken, succeeded⟩
  · rw [refused] at passed
    cases passed
  · rw [refused] at passed
    cases passed
  · rw [refused] at passed
    cases passed
  · rw [succeeded] at passed
    cases passed
    exact Schema.isTransaction_of_validate taken

/-- A request that is refused for its form is refused by both registries; else they are alike. -/
theorem alike_inquiry
    {start left right : Registry}
    (alike : start.Alike left right)
    (request : Request)
    (route : Route) :
    (∃ refusal,
        inquiry left request route = .error refusal ∧
          inquiry right request route = .error refusal) ∨
      ∃ leftInquiry rightInquiry,
        inquiry left request route = .ok leftInquiry ∧
          inquiry right request route = .ok rightInquiry ∧ leftInquiry.Alike rightInquiry := by
  have notFound : (404 : Nat) ≠ 500 := by decide
  have unavailable : (503 : Nat) ≠ 500 := by decide
  have badRequest : (400 : Nat) ≠ 500 := by decide
  cases route with
  | chains =>
      right
      rcases alike.listChains with ⟨summaries, leftLater, rightLater, atLeft, atRight, -⟩
      refine ⟨_, _, rfl, rfl, .put ?_⟩
      rw [atLeft, atRight]
      exact .of_ok rfl rfl
  | balances chain address =>
      apply alike_of_read
      intro tier _
      exact .put (alike.balances (name_pathKey chain) _ _ notFound)
  | gasPrice chain =>
      apply alike_of_read
      intro tier _
      exact .put (alike.gasPrice (name_pathKey chain) tier notFound unavailable)
  | estimateGas chain =>
      apply alike_of_read
      intro read passed
      exact .put (alike.estimateGas (name_pathKey chain) read.2
        (isTransaction_of_readModel passed) notFound unavailable badRequest)
  | rpc chain =>
      apply alike_of_read
      intro read _
      exact .put (alike.callMethod (name_pathKey chain) _ _ read.2 notFound unavailable)
  | health chain =>
      apply alike_of_read
      intro tier _
      exact .put (alike.checkHealth (name_pathKey chain) _ notFound)

end Holdings.Http
