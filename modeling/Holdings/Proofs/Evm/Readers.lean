import Holdings.Evm.Alchemy
import Holdings.Proofs.Provider.Failures

/-!
# Two readers of one envelope

The methods of an indexer and those of a node answer in envelopes of one form, which are read in
two places.  Both readers are meant to come to the same decision about every object that is
received: to the same result, or to a fault of the transport with the same message.

They differ in what they take for an error and for a missing result.  The reader of the node goes
by what is there and not null; that of the indexer lets an empty error pass, and takes null for a
result that is not there.
-/

namespace Holdings

open Fetch Outcome

/-! ## Decisions -/

/-- Two outcomes are one decision: one result, or faults of the transport with one message. -/
inductive DecideAlike : Except Fault Json → Except Fault Json → Prop where
  | returned
      (result : Json) :
      DecideAlike (.ok result) (.ok result)
  | refused
      {left right : Fault}
      {message : String}
      (leftKind : left.kind = .transport)
      (rightKind : right.kind = .transport)
      (leftSays : left.message = some message)
      (rightSays : right.message = some message) :
      DecideAlike (.error left) (.error right)

/-- An envelope with a result and no error, or with an error that is not empty and can be told. -/
inductive IsDecisive
    (members : List (String × Json)) :
    Prop where
  | result
      {result : Json}
      (noError : ((Json.find? members "error").getD .null).isNull = true)
      (there : Json.find? members "result" = some result) :
      IsDecisive members
  | error
      {error : Json}
      (found : Json.find? members "error" = some error)
      (present : error.isPresent = true)
      (showable : (Transport.errorText error).isShowable = true) :
      IsDecisive members

/-! ## The readers -/

theorem isNull_of_isPresent
    {value : Json}
    (present : value.isPresent = true) :
    value.isNull = false := by
  cases value with
  | null =>
      cases present
  | _ =>
      rfl

/-- An error that can be told is a fault of the transport, and any other is not. -/
theorem decideAlike_errorFault_iff
    (method : String)
    (error : Json) :
    DecideAlike (.error (Transport.errorFault method error))
        (.error (Transport.errorFault method error)) ↔
      (Transport.errorText error).isShowable = true := by
  unfold Transport.errorFault Fault.naming
  dsimp only
  split
  · next showable =>
      exact iff_of_true (.refused rfl rfl rfl rfl) showable
  · next notShowable =>
      refine iff_of_false ?_ notShowable
      rintro ⟨⟩
      rename_i kind _ _
      cases kind

section Envelopes

variable {members : List (String × Json)} {error : Json}

/-- An error that is not empty is seen by both readers. -/
theorem decideAlike_readers_of_isPresent
    (method : String)
    (found : Json.find? members "error" = some error)
    (present : error.isPresent = true) :
    DecideAlike (Evm.Alchemy.indexerResult method (.object members))
        (Transport.readEnvelope method (.object members)) ↔
      IsDecisive members := by
  have indexed : Evm.Alchemy.indexerResult method (.object members) =
      .error (Transport.errorFault method error) := by
    rw [Evm.Alchemy.indexerResult, Json.lookup_object, found, ok_bind, Option.getD_some,
      if_pos present]
    rfl
  have carried : Transport.readEnvelope method (.object members) =
      .error (Transport.errorFault method error) := by
    simp only [Transport.readEnvelope, found, Option.getD_some, isNull_of_isPresent present,
      Bool.false_eq_true, if_false]
  rw [indexed, carried, decideAlike_errorFault_iff]
  constructor
  · exact .error found present
  · rintro (⟨noError, -⟩ | ⟨there, -, showable⟩)
    · rw [found, Option.getD_some, isNull_of_isPresent present] at noError
      cases noError
    · cases found.symm.trans there
      exact showable

/-- Without such an error the reader of the indexer always comes to a result. -/
theorem decideAlike_readers_of_not_isPresent
    (method : String)
    (absent : ((Json.find? members "error").getD .null).isPresent = false) :
    DecideAlike (Evm.Alchemy.indexerResult method (.object members))
        (Transport.readEnvelope method (.object members)) ↔
      IsDecisive members := by
  have indexed : Evm.Alchemy.indexerResult method (.object members) =
      .ok ((Json.find? members "result").getD .null) := by
    rw [Evm.Alchemy.indexerResult, Json.lookup_object, ok_bind, absent]
    rfl
  rw [indexed, Transport.readEnvelope]
  constructor
  · intro alike
    split at alike
    · next noError =>
        split at alike
        · next result there =>
            exact .result noError there
        · cases alike
    · cases alike
  · rintro (⟨noError, there⟩ | ⟨found, present, -⟩)
    · rw [if_pos noError, there]
      exact .returned _
    · rw [found, Option.getD_some, present] at absent
      cases absent

theorem decideAlike_readers_iff
    (method : String)
    (members : List (String × Json)) :
    DecideAlike (Evm.Alchemy.indexerResult method (.object members))
        (Transport.readEnvelope method (.object members)) ↔
      IsDecisive members := by
  cases present : ((Json.find? members "error").getD .null).isPresent with
  | false =>
      exact decideAlike_readers_of_not_isPresent method present
  | true =>
      cases found : Json.find? members "error" with
      | none =>
          rw [found] at present
          cases present
      | some error =>
          rw [found] at present
          exact decideAlike_readers_of_isPresent method found present

end Envelopes

/-! ## Calls -/

theorem Evm.Alchemy.run_indexerCall
    (client : Alchemy)
    (method : String)
    (params : List Json)
    (network : Network)
    (log : Log) :
    (client.indexerCall method params).run network log =
      (receive (network log.calls (.rpc .client client.rpcUrl method (.array params))) >>=
          indexerResult method,
        { log with
          calls := log.calls ++ [.rpc .client client.rpcUrl method (.array params)] }) := by
  rw [indexerCall, run_bind_liftM, run_send]

/--
Where an object is received in answer to a call, the call comes to the same decision at an indexer
and at a node exactly when the object has a result and no error, or an error that is not empty and
can be told.
-/
theorem decideAlike_calls_iff
    (client : Evm.Alchemy)
    (transport : Transport)
    (endpoint method : String)
    (params : List Json)
    {network other : Network}
    {log otherLog : Log}
    {members : List (String × Json)}
    (indexed : Evm.Alchemy.receive
      (network log.calls (.rpc .client client.rpcUrl method (.array params))) =
        .ok (.object members))
    (carried : transport.receive
      (other otherLog.calls (.rpc transport.channel endpoint method (.array params))) =
        .ok (.object members)) :
    DecideAlike
        ((client.indexerCall method params).run network log).1
        ((transport.rpc endpoint method (.array params)).run other otherLog).1 ↔
      IsDecisive members := by
  rw [client.run_indexerCall, transport.run_rpc, indexed, carried]
  exact decideAlike_readers_iff method members

/-- What becomes of a method without parameters when an object is received at both places. -/
def decisions
    (members : List (String × Json)) :
    Except Fault Json × Except Fault Json :=
  let network : Network := fun _ _ => .value (.object members)
  (((⟨"eth-mainnet", "key"⟩ : Evm.Alchemy).indexerCall "m" []).run network .empty |>.1,
    (Transport.standard.rpc "https://node" "m" (.array [])).run network .empty |>.1)

/-- An error beside a result is an error at both places. -/
theorem decideAlike_calls_error :
    IsDecisive [("result", .null), ("error", .text "down")] ∧
      DecideAlike (decisions [("result", .null), ("error", .text "down")]).1
        (decisions [("result", .null), ("error", .text "down")]).2 := by
  have decisive : IsDecisive [("result", .null), ("error", .text "down")] :=
    .error rfl rfl rfl
  exact ⟨decisive,
    (decideAlike_calls_iff ⟨"eth-mainnet", "key"⟩ .standard "https://node" "m" [] rfl rfl).2
      decisive⟩

/-- An empty error beside a result, and an object with neither, are faults at a node alone. -/
theorem not_decideAlike_empty :
    (decisions [("error", .object []), ("result", .int 1)]).1 = .ok (.int 1) ∧
      (decisions [("error", .object []), ("result", .int 1)]).2 =
        .error (.errorResponse "m" .null) ∧
      (decisions []).1 = .ok .null ∧
      (decisions []).2 = .error (.missingResult "m") ∧
      ¬ DecideAlike (decisions [("error", .object []), ("result", .int 1)]).1
        (decisions [("error", .object []), ("result", .int 1)]).2 ∧
      ¬ DecideAlike (decisions []).1 (decisions []).2 := by
  refine ⟨rfl, rfl, rfl, rfl, ?_, ?_⟩
  · rintro ⟨⟩
  · rintro ⟨⟩

end Holdings
