import Holdings.Proofs.Http.Reached

/-!
# Who is to blame

A server should blame a request for nothing that the network did, and should
account for everything: no internal errors, and after a call nothing but a success
or a bad gateway.  It does not always do so.  An answer may have no written form, a
refusal may have to name a value without one, and a network may answer with a value
that is read as a fault of another class than the network's own.  These three are
all that goes wrong.
-/

namespace Holdings.Http

open Fetch

/-! ## Answers and their written forms -/

/-- What a request asks for. -/
def Request.target
    (request : Request) :
    Target :=
  Target.find request.method (decodePath request.path)

/-- The body of an answer, if it has one, can be written. -/
def Answer.IsWritable
    (answer : Answer) :
    Prop :=
  answer.body.all (fun body => isWritable body && depth body ≤ depthLimit) = true

/-- What becomes of an answer before it is sent. -/
def Request.finish
    (request : Request)
    (answer : Answer) :
    Answer :=
  if request.method = "HEAD" then answer.written.withoutBody else answer.written

theorem Request.status_finish
    (request : Request)
    (answer : Answer) :
    (request.finish answer).status = answer.written.status := by
  unfold finish
  split
  · rfl
  · rfl

theorem Request.status_finish_of_isWritable
    (request : Request)
    {answer : Answer}
    (writable : answer.IsWritable) :
    (request.finish answer).status = answer.status := by
  unfold Answer.IsWritable at writable
  rw [request.status_finish, Answer.written, if_pos writable]

theorem Request.status_finish_of_not_isWritable
    (request : Request)
    {answer : Answer}
    (blocked : ¬ answer.IsWritable) :
    (request.finish answer).status = 500 := by
  unfold Answer.IsWritable at blocked
  rw [request.status_finish, Answer.written, if_neg blocked]
  rfl

theorem answer_eq
    (registry : Registry)
    (request : Request) :
    answer registry request =
      answerTarget registry request request.target >>= fun answered =>
        pure (request.finish answered.1, answered.2) :=
  rfl

/-! ## Refusals -/

theorem eq_internalError_of_refusal
    {blamed : List Json}
    (status : (refusal blamed).status = 500) :
    refusal blamed = .internalError := by
  unfold refusal at status ⊢
  by_cases writable : areWritable blamed = true
  · rw [if_pos writable] at status
    cases status
  · rw [if_neg writable]

/-- A body that cannot be read is blamed on the request. -/
theorem status_ne_of_readBody
    {request : Request}
    {refusal : Answer}
    (unread : readBody request = .error refusal) :
    refusal.status ≠ 500 := by
  unfold readBody at unread
  split at unread
  · cases unread
  · cases unread
    decide
  · cases unread
    decide

theorem eq_internalError_of_readModel
    {request : Request}
    {model : Schema.Model}
    {refusal : Answer}
    (refused : readModel request model = .error refusal)
    (status : refusal.status = 500) :
    refusal = .internalError := by
  rcases readModel_cases request model with
    ⟨cause, unread, found⟩ | ⟨blamed, found⟩ | found | ⟨body, record, tier, -, found⟩
  · rw [found] at refused
    cases refused
    exact absurd status (status_ne_of_readBody unread)
  · rw [found] at refused
    cases refused
    exact eq_internalError_of_refusal status
  · rw [found] at refused
    cases refused
    cases status
  · rw [found] at refused
    cases refused

theorem eq_internalError_of_readTier
    {request : Request}
    {refusal : Answer}
    (refused : readTier request = .error refusal)
    (status : refusal.status = 500) :
    refusal = .internalError := by
  unfold readTier at refused
  split at refused
  · cases refused
  · cases refused
    cases status

/-- A request is refused for its form, unless the refusal would name what cannot be written. -/
theorem eq_internalError_of_inquiry
    {registry : Registry}
    {request : Request}
    {route : Route}
    {refusal : Answer}
    (refused : inquiry registry request route = .error refusal)
    (status : refusal.status = 500) :
    refusal = .internalError := by
  cases route with
  | chains =>
      cases refused
  | balances chain address =>
      exact eq_internalError_of_readTier (Outcome.eq_error_of_bind_pure refused) status
  | gasPrice chain =>
      exact eq_internalError_of_readTier (Outcome.eq_error_of_bind_pure refused) status
  | estimateGas chain =>
      exact eq_internalError_of_readModel (Outcome.eq_error_of_bind_pure refused) status
  | rpc chain =>
      exact eq_internalError_of_readModel (Outcome.eq_error_of_bind_pure refused) status
  | health chain =>
      exact eq_internalError_of_readTier (Outcome.eq_error_of_bind_pure refused) status

/-- A request whose body is refused for the sake of a value that has no written form. -/
def RefusesUnnameable
    (registry : Registry)
    (request : Request) :
    Prop :=
  ∃ route,
    request.target = .found route ∧ inquiry registry request route = .error .internalError

/-! ## What registries with the same start come to -/

/--
Two registries with the same start answer a request in the same way without a call, or both
put a question that consults the network.
-/
theorem answerTarget_alike
    {start left right : Registry}
    (alike : start.Alike left right)
    (request : Request) :
    (∃ raw leftLater rightLater,
        answerTarget left request request.target = pure (raw, leftLater) ∧
          answerTarget right request request.target = pure (raw, rightLater) ∧
            (raw.status = 500 → RefusesUnnameable left request) ∧
              (raw.status = 500 → RefusesUnnameable right request)) ∨
      ∃ route leftInquiry rightInquiry,
        request.target = .found route ∧
          inquiry left request route = .ok leftInquiry ∧ leftInquiry.ask.Consults ∧
            inquiry right request route = .ok rightInquiry ∧ rightInquiry.ask.Consults := by
  cases target : request.target with
  | found route =>
      rcases alike_inquiry alike request route with
        ⟨refusal, leftRefused, rightRefused⟩ |
          ⟨leftInquiry, rightInquiry, leftInquires, rightInquires, inquiries⟩
      · left
        refine ⟨refusal, left, right, ?_, ?_, ?_, ?_⟩
        · rw [answerTarget, answerRoute_eq, leftRefused]
        · rw [answerTarget, answerRoute_eq, rightRefused]
        · intro status
          rw [eq_internalError_of_inquiry leftRefused status] at leftRefused
          exact ⟨route, target, leftRefused⟩
        · intro status
          rw [eq_internalError_of_inquiry rightRefused status] at rightRefused
          exact ⟨route, target, rightRefused⟩
      · rcases inquiries.answer with
          ⟨raw, leftLater, rightLater, atLeft, atRight, accounted⟩ | ⟨leftConsults, rightConsults⟩
        · left
          refine ⟨raw, leftLater, rightLater, ?_, ?_, ?_, ?_⟩
          · rw [answerTarget, answerRoute_eq, leftInquires]
            exact atLeft
          · rw [answerTarget, answerRoute_eq, rightInquires]
            exact atRight
          · intro status
            exact absurd status accounted
          · intro status
            exact absurd status accounted
        · right
          exact ⟨route, leftInquiry, rightInquiry, rfl, leftInquires, leftConsults,
            rightInquires, rightConsults⟩
  | _ =>
      left
      refine ⟨_, left, right, rfl, rfl, ?_, ?_⟩ <;>
        intro status <;>
          cases status

/-! ## One run -/

/--
A request is answered, by no internal error, and after a call to the network by a success or
a bad gateway.
-/
def Accounts
    (registry : Registry)
    (request : Request)
    (network : Network)
    (log : Log)
    (reply : Answer) :
    Prop :=
  ∃ later grown,
    (answer registry request).run network log = (.ok (reply, later), grown) ∧
      reply.status ≠ 500 ∧
        (grown.calls ≠ log.calls → reply.status = 200 ∨ reply.status = 502)

/-- How a request can go wrong. -/
inductive Mishandles
    (registry : Registry)
    (request : Request)
    (network : Network)
    (log : Log) :
    Prop where
  /-- The answer has no written form. -/
  | unwritable
      {raw : Answer}
      {later : Registry}
      {grown : Log}
      (ended : (answerTarget registry request request.target).run network log =
        (.ok (raw, later), grown))
      (blocked : ¬ raw.IsWritable)
  /-- The body is refused for the sake of a value that has no written form. -/
  | unnameable
      (refuses : RefusesUnnameable registry request)
  /-- After a call the question comes to a fault that is not of the network's own class. -/
  | misread
      {route : Route}
      {asked : Inquiry}
      {fault : Fault}
      {later : Registry}
      {grown : Log}
      (target : request.target = .found route)
      (inquires : inquiry registry request route = .ok asked)
      (ended : asked.ask.run network log = (.ok (.error fault, later), grown))
      (called : grown.calls ≠ log.calls)
      (foreign : fault.kind ≠ .transport)

variable
  {registry later : Registry}
  {request : Request}
  {network : Network}
  {log grown : Log}

theorem run_answer
    {raw : Answer}
    (ended : (answerTarget registry request request.target).run network log =
      (.ok (raw, later), grown)) :
    (answer registry request).run network log =
      (.ok (request.finish raw, later), grown) := by
  rw [answer_eq, run_bind, ended]
  rfl

theorem run_answerTarget_of_inquiry
    {route : Route}
    {asked : Inquiry}
    {outcome : Except Fault Json}
    (target : request.target = .found route)
    (inquires : inquiry registry request route = .ok asked)
    (ended : asked.ask.run network log = (.ok (outcome, later), grown)) :
    (answerTarget registry request request.target).run network log =
      (.ok (.ofOutcome asked.onFault id outcome, later), grown) := by
  rw [target, answerTarget, answerRoute_eq, inquires]
  dsimp only
  rw [Inquiry.answer, run_bind, ended]
  rfl

/-- Each of the three ways of going wrong shows in the answer. -/
theorem not_mishandles_of_accounts
    {reply : Answer}
    (accounts : Accounts registry request network log reply) :
    ¬ Mishandles registry request network log := by
  rcases accounts with ⟨last, end_, replied, handled, upstream⟩
  intro mishandles
  cases mishandles with
  | unwritable ended blocked =>
      rw [run_answer ended] at replied
      cases replied
      exact handled (request.status_finish_of_not_isWritable blocked)
  | unnameable refuses =>
      rcases refuses with ⟨route, target, refused⟩
      have ended : (answerTarget registry request request.target).run network log =
          (.ok (.internalError, registry), log) := by
        rw [target, answerTarget, answerRoute_eq, refused]
        rfl
      rw [run_answer ended] at replied
      cases replied
      exact handled (request.status_finish_of_isWritable rfl)
  | @misread route asked fault later grown target inquires ended called foreign =>
      rw [run_answer (run_answerTarget_of_inquiry target inquires ended)] at replied
      cases replied
      by_cases writable : (asked.onFault fault).IsWritable
      · have status := request.status_finish_of_isWritable writable
        rw [asked.status_onFault] at status
        have neither := asked.statusOf_ne foreign
        rw [← status] at neither
        rcases upstream called with success | badGateway
        · exact neither.1 success
        · exact neither.2 badGateway
      · exact handled (request.status_finish_of_not_isWritable writable)

/-- Whatever consults the network without going wrong ends with a success or a bad gateway. -/
theorem accounts_of_consults
    {route : Route}
    {asked : Inquiry}
    (target : request.target = .found route)
    (inquires : inquiry registry request route = .ok asked)
    (consults : asked.ask.Consults)
    (fine : ¬ Mishandles registry request network log) :
    ∃ reply,
      Accounts registry request network log reply ∧
        (reply.status = 200 ∨ reply.status = 502) := by
  rcases consults network log with ⟨outcome, later, grown, ended, afterCall⟩
  have answered := run_answerTarget_of_inquiry target inquires ended
  have writable : (Answer.ofOutcome asked.onFault id outcome).IsWritable := by
    by_contra blocked
    exact fine (.unwritable answered blocked)
  have status := request.status_finish_of_isWritable writable
  have accounted : (Answer.ofOutcome asked.onFault id outcome).status = 200 ∨
      (Answer.ofOutcome asked.onFault id outcome).status = 502 := by
    cases outcome with
    | ok body =>
        exact Or.inl rfl
    | error fault =>
        right
        show (asked.onFault fault).status = 502
        have upstream : fault.kind = .transport := by
          by_contra foreign
          exact fine (.misread target inquires ended (afterCall fault rfl) foreign)
        rw [asked.status_onFault, upstream]
        rfl
  rw [← status] at accounted
  refine ⟨_, ⟨later, grown, run_answer answered, ?_, fun _ => accounted⟩, accounted⟩
  rcases accounted with success | badGateway
  · rw [success]
    decide
  · rw [badGateway]
    decide

/-- What is settled without a call is accounted for, unless its answer has no written form. -/
theorem accounts_of_settled
    {raw : Answer}
    (settled : answerTarget registry request request.target = pure (raw, later))
    (nameable : raw.status = 500 → RefusesUnnameable registry request)
    (fine : ¬ Mishandles registry request network log) :
    Accounts registry request network log (request.finish raw) := by
  have answered : (answerTarget registry request request.target).run network log =
      (.ok (raw, later), log) := by
    rw [settled]
    rfl
  have writable : raw.IsWritable := by
    by_contra blocked
    exact fine (.unwritable answered blocked)
  refine ⟨later, log, run_answer answered, ?_, fun called => absurd rfl called⟩
  rw [request.status_finish_of_isWritable writable]
  intro status
  exact fine (.unnameable (nameable status))

/-! ## Two runs -/

/--
A request is accounted for under two networks, and what is neither a success nor a bad gateway
is the same answer under both.
-/
def Attributed
    (left right : Registry)
    (request : Request)
    (leftNetwork rightNetwork : Network)
    (leftLog rightLog : Log) :
    Prop :=
  ∃ leftReply rightReply,
    Accounts left request leftNetwork leftLog leftReply ∧
      Accounts right request rightNetwork rightLog rightReply ∧
        (leftReply = rightReply ∨
          (leftReply.status = 200 ∨ leftReply.status = 502) ∧
            (rightReply.status = 200 ∨ rightReply.status = 502))

/--
Two servers with the same settings, whatever they were asked before, attribute what happens with a
request that neither of them mishandles.
-/
theorem attributed_of_not_mishandles
    {settings : Settings}
    {convertUnits : Bool}
    {transport : Transport}
    {left right : Registry}
    {leftNetwork rightNetwork : Network}
    {leftLog rightLog : Log}
    (leftReached : Reached (.make settings convertUnits transport .standard) left)
    (rightReached : Reached (.make settings convertUnits transport .standard) right)
    (leftFine : ¬ Mishandles left request leftNetwork leftLog)
    (rightFine : ¬ Mishandles right request rightNetwork rightLog) :
    Attributed left right request leftNetwork rightNetwork leftLog rightLog := by
  have begun := Registry.growsFrom_make settings convertUnits transport
  have alike := Registry.Alike.mk (leftReached.growsFrom begun) (rightReached.growsFrom begun)
  rcases answerTarget_alike alike request with
    ⟨raw, leftLater, rightLater, atLeft, atRight, leftNameable, rightNameable⟩ |
      ⟨route, leftInquiry, rightInquiry, target, leftInquires, leftConsults, rightInquires,
        rightConsults⟩
  · exact ⟨_, _, accounts_of_settled atLeft leftNameable leftFine,
      accounts_of_settled atRight rightNameable rightFine, Or.inl rfl⟩
  · rcases accounts_of_consults target leftInquires leftConsults leftFine with
      ⟨leftReply, leftAccounts, leftStatus⟩
    rcases accounts_of_consults target rightInquires rightConsults rightFine with
      ⟨rightReply, rightAccounts, rightStatus⟩
    exact ⟨leftReply, rightReply, leftAccounts, rightAccounts,
      Or.inr ⟨leftStatus, rightStatus⟩⟩

/--
Two servers with the same settings, whatever they were asked before, attribute what happens
with a request under two networks exactly when neither of them mishandles it.
-/
theorem attributed_iff
    {settings : Settings}
    {convertUnits : Bool}
    {transport : Transport}
    {left right : Registry}
    (leftReached : Reached (.make settings convertUnits transport .standard) left)
    (rightReached : Reached (.make settings convertUnits transport .standard) right)
    (request : Request)
    (leftNetwork rightNetwork : Network)
    (leftLog rightLog : Log) :
    Attributed left right request leftNetwork rightNetwork leftLog rightLog ↔
      ¬ Mishandles left request leftNetwork leftLog ∧
        ¬ Mishandles right request rightNetwork rightLog := by
  constructor
  · rintro ⟨leftReply, rightReply, leftAccounts, rightAccounts, -⟩
    exact ⟨not_mishandles_of_accounts leftAccounts, not_mishandles_of_accounts rightAccounts⟩
  · rintro ⟨leftFine, rightFine⟩
    exact attributed_of_not_mishandles leftReached rightReached leftFine rightFine

/-! ## A server that asks public endpoints -/

/-- The status with which a request is answered. -/
def statusOf?
    (registry : Registry)
    (request : Request)
    (network : Network)
    (log : Log) :
    Option Nat :=
  ((answer registry request).run network log).1.toOption.map fun answered => answered.1.status

theorem statusOf?_of_run
    {reply : Answer}
    (ended : (answer registry request).run network log = (.ok (reply, later), grown)) :
    statusOf? registry request network log = some reply.status := by
  rw [statusOf?, ended]
  rfl

theorem exists_accounts_of_statusOf?
    {status : Nat}
    (answered : statusOf? registry request network log = some status)
    (accounted : status = 200 ∨ status = 502) :
    ∃ reply, Accounts registry request network log reply := by
  rcases ended : (answer registry request).run network log with ⟨outcome, grown⟩
  cases outcome with
  | error fault =>
      rw [statusOf?, ended] at answered
      cases answered
  | ok value =>
      rcases value with ⟨reply, later⟩
      rw [statusOf?_of_run ended] at answered
      cases answered
      refine ⟨reply, later, grown, ended, ?_, fun _ => accounted⟩
      rcases accounted with success | badGateway
      · rw [success]
        decide
      · rw [badGateway]
        decide

theorem not_accounts_of_statusOf?
    {status : Nat}
    (answered : statusOf? registry request network log = some status)
    (called : log.calls.length < ((answer registry request).run network log).2.calls.length)
    (neither : status ≠ 200 ∧ status ≠ 502)
    (reply : Answer) :
    ¬ Accounts registry request network log reply := by
  rintro ⟨later, grown, ended, -, upstream⟩
  rw [statusOf?_of_run ended] at answered
  cases answered
  rw [ended] at called
  have grew : grown.calls ≠ log.calls := by
    intro same
    rw [same] at called
    exact Nat.lt_irrefl _ called
  rcases upstream grew with success | badGateway
  · exact neither.1 success
  · exact neither.2 badGateway

/-- A server without settings, which asks the public endpoint of each chain. -/
def publicServer : Registry := .make ⟨[]⟩ true .standard .standard

/-- A network that answers every call with one result. -/
def resultNetwork
    (result : Json) :
    Network :=
  fun _ _ => .value (.object [("result", result)])

def gasPriceRequest : Request :=
  ⟨"GET", "/blockchain/ethereum/gas-price", [], none⟩

def estimateRequest : Request :=
  ⟨"POST", "/blockchain/ethereum/estimate-gas", [], some "\x7b\"from\": \"0xab\"\x7d"⟩

theorem attributed_estimate :
    Attributed publicServer publicServer estimateRequest
      (resultNetwork (.text "0x5208")) (fun _ _ => .silent) .empty .empty := by
  apply (attributed_iff .start .start estimateRequest _ _ _ _).2
  constructor
  · have answered : statusOf? publicServer estimateRequest (resultNetwork (.text "0x5208"))
        .empty = some 200 := by
      decide +kernel
    rcases exists_accounts_of_statusOf? answered (Or.inl rfl) with ⟨reply, accounts⟩
    exact not_mishandles_of_accounts accounts
  · have answered : statusOf? publicServer estimateRequest (fun _ _ => .silent) .empty =
        some 502 := by
      decide +kernel
    rcases exists_accounts_of_statusOf? answered (Or.inr rfl) with ⟨reply, accounts⟩
    exact not_mishandles_of_accounts accounts

/--
A result that is no amount is blamed on the request for an estimate, and is an internal error
where a price was asked for.
-/
theorem not_attributed_malformed_amount :
    ¬ Attributed publicServer publicServer estimateRequest
        (resultNetwork (.text "abc")) (resultNetwork (.text "0x5208")) .empty .empty ∧
      ¬ Attributed publicServer publicServer gasPriceRequest
        (resultNetwork (.text "abc")) (resultNetwork (.text "0x1")) .empty .empty := by
  constructor
  · rintro ⟨reply, other, accounts, -⟩
    have answered : statusOf? publicServer estimateRequest (resultNetwork (.text "abc"))
        .empty = some 400 := by
      decide +kernel
    exact not_accounts_of_statusOf? answered (by decide +kernel) (by decide) reply accounts
  · rintro ⟨reply, other, accounts, -⟩
    have answered : statusOf? publicServer gasPriceRequest (resultNetwork (.text "abc"))
        .empty = some 500 := by
      decide +kernel
    exact not_accounts_of_statusOf? answered (by decide +kernel) (by decide) reply accounts

end Holdings.Http
