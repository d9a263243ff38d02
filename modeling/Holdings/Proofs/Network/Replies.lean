import Holdings.Network.Transport
import Holdings.Proofs.Json.Limits
import Holdings.Proofs.Json.Showable
import Holdings.Proofs.Network.Within
import Holdings.Proofs.Outcome

/-!
# Replies and what transports make of them

One call has one reply, from which everything else follows.  A call fails when
there is no connection, no answer in time, or an envelope with an error; over a
connection of our own each of these is a fault of the transport.  Where a network
answers every call that is made, all that is made of the answers comes to a value.

Three kinds of replies bring no value and are no fault of the transport, either: a
body that is no text, a body that is too deep to be read, and a call that was not
sent.
-/

namespace Holdings

open Fetch

variable {α β : Type} {network : Network} {log : Log}

/-! ## Runs of single calls -/

theorem Fetch.run_bind_of_error
    {fetch : Fetch α}
    {fault : Fault}
    {grown : Log}
    (failed : fetch.run network log = (.error fault, grown))
    (next : α → Fetch β) :
    (fetch >>= next).run network log = (.error fault, grown) := by
  rw [run_bind, failed]

theorem Fetch.run_bind_of_ok
    {fetch : Fetch α}
    {value : α}
    {grown : Log}
    (ended : fetch.run network log = (.ok value, grown))
    (next : α → Fetch β) :
    (fetch >>= next).run network log = (next value).run network grown := by
  rw [run_bind, ended]

theorem Fetch.run_liftM
    (outcome : Except Fault α)
    (network : Network)
    (log : Log) :
    (liftM outcome : Fetch α).run network log = (outcome, log) :=
  rfl

/-- What is made of a value without the network leaves the log as it is. -/
theorem Fetch.run_bind_liftM
    (fetch : Fetch α)
    (next : α → Except Fault β)
    (network : Network)
    (log : Log) :
    (fetch >>= fun value => liftM (next value)).run network log =
      ((fetch.run network log).1 >>= next, (fetch.run network log).2) := by
  rw [run_bind]
  rcases fetch.run network log with ⟨outcome, grown⟩
  cases outcome <;> rfl

theorem Transport.run_rpc
    (transport : Transport)
    (endpoint method : String)
    (params : Json)
    (network : Network)
    (log : Log) :
    (transport.rpc endpoint method params).run network log =
      (transport.receive (network log.calls (.rpc transport.channel endpoint method params)) >>=
          readEnvelope method,
        { log with calls := log.calls ++ [.rpc transport.channel endpoint method params] }) := by
  have steps : transport.rpc endpoint method params =
      ask (.rpc transport.channel endpoint method params) >>= fun reply =>
        liftM (transport.receive reply >>= readEnvelope method) := by
    simp only [rpc, send, bind_assoc, liftM_bind]
  rw [steps, run_bind_liftM, run_ask]
  rfl

/-! ## What a reply brings -/

/-- A reply brings a value as it is, or as the body of a response that was accepted. -/
inductive Reply.Delivers : Reply → Json → Prop where
  | value
      (value : Json) :
      Delivers (.value value) value
  | body
      {code : Int}
      {body : String}
      {value : Json}
      (accepted : code < 400)
      (read : Json.parseBody body = .ok value) :
      Delivers (.status code body) value

/-- A response carries a result: it is an object with one, whose error is absent or null. -/
inductive Json.Carries : Json → Json → Prop where
  | result
      {members : List (String × Json)}
      {result : Json}
      (noError : ∀ error, find? members "error" = some error → error = .null)
      (found : find? members "result" = some result) :
      Carries (.object members) result

namespace Transport

theorem receive_eq_ok_iff
    {transport : Transport}
    {reply : Reply}
    {value : Json} :
    transport.receive reply = .ok value ↔ reply.Delivers value := by
  constructor
  · intro received
    cases reply with
    | value delivered =>
        cases received
        exact .value value
    | status code body =>
        rw [receive] at received
        split at received
        · cases received
        · next accepted =>
          rw [decodeBody] at received
          split at received
          · next read =>
            cases received
            exact .body (Int.not_le.1 accepted) read
          · cases received
          · cases received
    | garbled code defect first =>
        cases received
    | refused text =>
        cases transport <;> cases received
    | silent =>
        cases transport <;> cases received
    | unsent flaw =>
        cases received
  · rintro (⟨⟩ | ⟨accepted, read⟩)
    · rfl
    · rw [receive, if_neg (Int.not_le.2 accepted), decodeBody, read]

theorem isNull_error_iff
    (members : List (String × Json)) :
    ((Json.find? members "error").getD .null).isNull = true ↔
      ∀ error, Json.find? members "error" = some error → error = .null := by
  cases Json.find? members "error" with
  | none =>
      simp [Json.isNull]
  | some error =>
      cases error <;> simp [Json.isNull]

theorem readEnvelope_eq_ok_iff
    {method : String}
    {response result : Json} :
    readEnvelope method response = .ok result ↔ response.Carries result := by
  constructor
  · intro read
    cases response with
    | object members =>
        simp only [readEnvelope] at read
        split at read
        · next isNull =>
          split at read
          · next found =>
            cases read
            exact .result ((isNull_error_iff members).1 isNull) found
          · cases read
        · cases read
    | _ =>
        simp only [readEnvelope] at read
        cases read
  · rintro ⟨noError, found⟩
    simp only [readEnvelope, (isNull_error_iff _).2 noError, found, if_true]

/-- Null is a result like any other, and no error. -/
example :
    readEnvelope "eth_call" (.object [("error", .null), ("result", .null)]) = .ok .null :=
  rfl

end Transport

/-! ## Calls that are sent -/

/-- A network sends the calls that can be written, and no others. -/
def Network.IsWired
    (network : Network) :
    Prop :=
  ∀ earlier call flaw, network earlier call = .unsent flaw ↔ call.flaw? = some flaw

/-- What comes back for a call to which there is a reply, if only the call can be written. -/
def Call.meets
    (call : Call)
    (reply : Reply) :
    Reply :=
  match call.flaw? with
  | some flaw => .unsent flaw
  | none => reply

theorem Call.meets_of_written
    {call : Call}
    (written : call.flaw? = none)
    (reply : Reply) :
    call.meets reply = reply := by
  rw [meets, written]

theorem Network.isWired_meets
    {reply : Reply}
    (comes : ∀ flaw, reply ≠ .unsent flaw) :
    IsWired fun _ call => call.meets reply := by
  intro earlier call flaw
  dsimp only [Call.meets]
  cases call.flaw? with
  | none =>
      simp [comes flaw]
  | some found =>
      simp

/-- The calls of a log that were sent. -/
def Log.sent
    (log : Log) :
    List Call :=
  log.calls.filter fun call => call.flaw?.isNone

theorem Log.sent_append_of_written
    {call : Call}
    (written : call.flaw? = none)
    (log : Log)
    (events : List Event) :
    (Log.mk (log.calls ++ [call]) events).sent = log.sent ++ [call] := by
  rw [sent, List.filter_append, List.filter_cons_of_pos (by rw [written]; rfl), List.filter_nil]
  rfl

theorem Log.sent_append_of_flaw
    {call : Call}
    {flaw : WriteFlaw}
    (flawed : call.flaw? = some flaw)
    (log : Log)
    (events : List Event) :
    (Log.mk (log.calls ++ [call]) events).sent = log.sent := by
  rw [sent, List.filter_append, List.filter_cons_of_neg (by rw [flawed]; simp), List.filter_nil,
    List.append_nil]
  rfl

/-- A parameter with more digits than a number may have cannot be written. -/
theorem Call.flaw?_of_long
    {value : Nat}
    (long : 10 ^ Json.digitLimit ≤ value)
    (endpoint method : String) :
    (Call.rpc .connection endpoint method (.array [.int value])).flaw? = some .badNumber := by
  have beyond : (Json.int value).isShowable = false := by
    rw [← Bool.not_eq_true, Json.isShowable_int_iff, Int.natAbs_natCast]
    exact Nat.not_lt.2 long
  simp [flaw?, Json.flaw?, Json.flawOfItems?, Json.nestingLimit, beyond]

/-! ## Replies of which a transport makes nothing -/

/-- A reply that is neither a value nor a fault of the transport. -/
inductive Reply.Escapes : Reply → Prop where
  /-- The body is no text, whatever the status is. -/
  | garbled
      (code : Int)
      (defect : Text.Utf8Defect)
      (first : UInt8) :
      Escapes (.garbled code defect first)
  /-- The body is too deep to be read. -/
  | tooDeep
      {code : Int}
      {body : String}
      (accepted : code < 400)
      (deep : Json.parseBody body = .error .tooDeep) :
      Escapes (.status code body)
  /-- Nothing was sent. -/
  | unsent
      (flaw : WriteFlaw) :
      Escapes (.unsent flaw)

theorem Reply.escapes_brackets
    {code : Int}
    {depth : Nat}
    (accepted : code < 400)
    (deep : Json.nestingLimit < depth) :
    (Reply.status code (String.ofList (List.replicate depth '['))).Escapes :=
  .tooDeep accepted (Json.parseBody_brackets deep)

namespace Transport

/-- Over a connection of our own, a reply that escapes comes to a fault of another class. -/
theorem exists_fault_of_escapes
    {reply : Reply}
    (escapes : reply.Escapes)
    (limit : String) :
    ∃ fault, (connection limit).receive reply = .error fault ∧ fault.kind ≠ .transport := by
  cases escapes with
  | garbled code defect first =>
      exact ⟨.undecodable defect first, rfl, nofun⟩
  | tooDeep accepted deep =>
      refine ⟨.tooDeep, ?_, nofun⟩
      rw [receive, if_neg (Int.not_le.2 accepted), decodeBody, deep]
  | unsent flaw =>
      refine ⟨flaw.fault, rfl, ?_⟩
      cases flaw <;> nofun

/-- Any other reply that brings no value is a fault of the transport. -/
theorem exists_fault_of_not_delivers
    {reply : Reply}
    (nothing : ∀ value, ¬ reply.Delivers value)
    (caught : ¬ reply.Escapes)
    (limit : String) :
    ∃ fault, (connection limit).receive reply = .error fault ∧ fault.kind = .transport := by
  cases reply with
  | value delivered =>
      exact absurd (.value delivered) (nothing delivered)
  | status code body =>
      by_cases failed : 400 ≤ code
      · exact ⟨.badStatus code body, if_pos failed, rfl⟩
      · have accepted := Int.not_le.1 failed
        rw [receive, if_neg failed, decodeBody]
        cases read : Json.parseBody body with
        | ok value =>
            exact absurd (.body accepted read) (nothing value)
        | error fault =>
            cases fault with
            | tooDeep =>
                exact absurd (.tooDeep accepted read) caught
            | malformed | tooManyDigits =>
                exact ⟨.malformedResponse, rfl, rfl⟩
  | garbled code defect first =>
      exact absurd (.garbled code defect first) caught
  | refused text =>
      exact ⟨.requestFailed text, rfl, rfl⟩
  | silent =>
      exact ⟨.requestTimedOut limit, rfl, rfl⟩
  | unsent flaw =>
      exact absurd (.unsent flaw) caught

end Transport

/-! ## Calls that fail -/

/-- An envelope with an error, in which every integer can be printed. -/
structure Json.IsErrorEnvelope
    (members : List (String × Json))
    (error : Json) :
    Prop where
  showable : (Json.object members).isShowable = true
  found : Json.find? members "error" = some error
  notNull : error.isNull = false

/-- A reply without a result: no answer in time, no connection, or an envelope with an error. -/
inductive Reply.Fails : Reply → Prop where
  | silent :
      Fails .silent
  | refused
      (text : String) :
      Fails (.refused text)
  | value
      {members : List (String × Json)}
      {error : Json}
      (envelope : Json.IsErrorEnvelope members error) :
      Fails (.value (.object members))
  | body
      {code : Int}
      {body : String}
      {members : List (String × Json)}
      {error : Json}
      (accepted : code < 400)
      (read : Json.parseBody body = .ok (.object members))
      (found : Json.find? members "error" = some error)
      (notNull : error.isNull = false) :
      Fails (.status code body)

namespace Transport

theorem isShowable_errorText
    {error : Json}
    (showable : error.isShowable = true) :
    (errorText error).isShowable = true := by
  cases error with
  | object members =>
      cases found : Json.find? members "message" with
      | none =>
          simp [errorText, found, Json.isShowable]
      | some text =>
          simpa [errorText, found] using Json.isShowable_of_find? showable found
  | _ =>
      exact showable

/-- The error of an envelope is a fault of the transport. -/
theorem readEnvelope_of_error
    {members : List (String × Json)}
    {error : Json}
    (envelope : Json.IsErrorEnvelope members error)
    (method : String) :
    readEnvelope method (.object members) = .error (.errorResponse method (errorText error)) := by
  have showable := isShowable_errorText (Json.isShowable_of_find? envelope.showable envelope.found)
  simp [readEnvelope, envelope.found, envelope.notNull, errorFault, Fault.naming, showable]

/-- Over a connection of our own, a call that fails comes to a fault of the transport. -/
theorem exists_fault_of_fails
    {reply : Reply}
    (fails : reply.Fails)
    (limit method : String) :
    ∃ fault,
      ((connection limit).receive reply >>= readEnvelope method) = .error fault ∧
        fault.kind = .transport := by
  cases fails with
  | silent =>
      exact ⟨.requestTimedOut limit, rfl, rfl⟩
  | refused text =>
      exact ⟨.requestFailed text, rfl, rfl⟩
  | value envelope =>
      exact ⟨_, readEnvelope_of_error envelope method, rfl⟩
  | @body code body members error accepted read found notNull =>
      have envelope : Json.IsErrorEnvelope members error :=
        ⟨Json.isShowable_of_parseBody read, found, notNull⟩
      refine ⟨.errorResponse method (errorText error), ?_, rfl⟩
      rw [receive, if_neg (Int.not_le.2 accepted), decodeBody, read]
      exact readEnvelope_of_error envelope method

theorem run_rpc_of_fails
    {endpoint method : String}
    {params : Json}
    {limit : String}
    (fails : (network log.calls (.rpc .connection endpoint method params)).Fails) :
    ∃ fault grown,
      ((connection limit).rpc endpoint method params).run network log = (.error fault, grown) ∧
        fault.kind = .transport := by
  rcases exists_fault_of_fails fails limit method with ⟨fault, failed, kind⟩
  have ended := (connection limit).run_rpc endpoint method params network log
  rw [channel, failed] at ended
  exact ⟨fault, _, ended, kind⟩

end Transport

/-! ## Calls that are answered -/

/-- At any time, a fetch comes to a value with a property. -/
def Fetch.ComesTo
    (fetch : Fetch α)
    (network : Network)
    (holds : α → Prop) :
    Prop :=
  ∀ log, ∃ value grown, fetch.run network log = (.ok value, grown) ∧ holds value

/-- At any time, a network answers a call with a result that has a property. -/
def Transport.Answers
    (transport : Transport)
    (network : Network)
    (endpoint method : String)
    (params : List Json)
    (holds : Json → Prop) :
    Prop :=
  ∀ earlier, ∃ result,
    (transport.receive
        (network earlier (.rpc transport.channel endpoint method (.array params))) >>=
      readEnvelope method) = .ok result ∧ holds result

theorem Transport.Answers.comesTo
    {transport : Transport}
    {endpoint method : String}
    {params : List Json}
    {holds : Json → Prop}
    (answers : transport.Answers network endpoint method params holds) :
    (transport.rpc endpoint method (.array params)).ComesTo network holds := by
  intro log
  rcases answers log.calls with ⟨result, received, here⟩
  have ended := transport.run_rpc endpoint method (.array params) network log
  rw [received] at ended
  exact ⟨result, _, ended, here⟩

namespace Fetch.ComesTo

variable {holds : α → Prop} {later : β → Prop}

theorem lift
    {outcome : Except Fault α}
    {value : α}
    (there : outcome = .ok value)
    (here : holds value) :
    (liftM outcome : Fetch α).ComesTo network holds := by
  intro log
  rw [there]
  exact ⟨value, log, rfl, here⟩

theorem bind
    {fetch : Fetch α}
    {next : α → Fetch β}
    (first : fetch.ComesTo network holds)
    (rest : ∀ value, holds value → (next value).ComesTo network later) :
    (fetch >>= next).ComesTo network later := by
  intro log
  rcases first log with ⟨value, between, ended, here⟩
  rw [run_bind_of_ok ended]
  exact rest value here between

theorem attempt
    {fetch : Fetch α}
    (ends : fetch.ComesTo network holds) :
    fetch.attempt.ComesTo network fun outcome => ∃ value, outcome = .ok value ∧ holds value := by
  intro log
  rcases ends log with ⟨value, grown, ended, here⟩
  refine ⟨.ok value, grown, ?_, value, rfl, here⟩
  rw [run_attempt, ended]

/-- A fetch that can come to one value only has this outcome. -/
theorem outcome_eq
    {fetch : Fetch α}
    {value : α}
    (ends : fetch.ComesTo network (· = value))
    (log : Log) :
    (fetch.run network log).1 = .ok value := by
  rcases ends log with ⟨found, grown, ended, rfl⟩
  rw [ended]

end Fetch.ComesTo

end Holdings
