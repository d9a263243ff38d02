import Holdings.Proofs.Amount.Decimal
import Holdings.Proofs.Provider.Failures
import Holdings.Proofs.Text.Hexadecimal

/-!
# Quantities that are answered

A node writes a quantity as a hexadecimal numeral, in an envelope that keeps the rules of
JSON-RPC.  Over a transport and through the client of an indexer such an envelope comes to
its result, and a quantity that is not too long to its decimal text.
-/

namespace Holdings

open Fetch Outcome Text

/-- An envelope keeps the rules of JSON-RPC and holds a result. -/
structure Json.IsAnswer
    (envelope result : Json) :
    Prop where
  version : envelope.get? "jsonrpc" = some (.text "2.0")
  number : ∃ number, envelope.get? "id" = some (.int number)
  result : envelope.get? "result" = some result
  noError : envelope.get? "error" = none
  noNotice : envelope.get? "params" = none

namespace Json.IsAnswer

variable {envelope result : Json}

theorem exists_members
    (answer : envelope.IsAnswer result) :
    ∃ members, envelope = .object members := by
  have there := answer.result
  cases envelope with
  | object members =>
      exact ⟨members, rfl⟩
  | _ =>
      cases there

theorem readEnvelope_eq
    (answer : envelope.IsAnswer result)
    (method : String) :
    Transport.readEnvelope method envelope = .ok result := by
  rcases answer.exists_members with ⟨members, rfl⟩
  have noError : find? members "error" = none := answer.noError
  have there : find? members "result" = some result := answer.result
  simp [Transport.readEnvelope, noError, there, isNull]

/-- The client of a node finds nothing to object to. -/
theorem readNodeEnvelope_eq
    (answer : envelope.IsAnswer result)
    {method : String}
    (noBlock : method ≠ Evm.blockMethod)
    (params : List Json) :
    Evm.readNodeEnvelope method params envelope = .ok (.result result) := by
  rcases answer.exists_members with ⟨members, rfl⟩
  rcases answer.number with ⟨number, numbered⟩
  have version : find? members "jsonrpc" = some (.text "2.0") := answer.version
  have numbered : find? members "id" = some (.int number) := numbered
  have there : find? members "result" = some result := answer.result
  have noError : find? members "error" = none := answer.noError
  have noParams : find? members "params" = none := answer.noNotice
  have content : Evm.checkContent method members = .ok () := by
    simp [Evm.checkContent, noBlock, noParams, isNull]
    rfl
  have standing : Evm.checkNotice members = .ok () := by
    simp [Evm.checkNotice, there]
  have noNotice : Evm.notice? members = .ok none := by
    simp [Evm.notice?, noParams, isNull]
    rfl
  have numbering : Evm.checkNumbering members none = .ok () := by
    have same : (some (Json.text "2.0") != some (.text "2.0")) = false := rfl
    simp [Evm.checkNumbering, Evm.hasNumber, version, numbered, same]
    rfl
  rw [Evm.readNodeEnvelope, content, ok_bind, standing, ok_bind, noNotice, ok_bind, numbering,
    ok_bind, noError, there]
  rfl

end Json.IsAnswer

/-- A text is a hexadecimal numeral of a number. -/
def Text.IsHexNumeral
    (written : String)
    (number : Nat) :
    Prop :=
  ∃ digits, written = hexNumeral digits ∧ digits ≠ [] ∧ AreHexDigits digits ∧
    hexValue digits = number

/-- One call is made, and the quantity that answers it is given in decimal. -/
structure Fetch.AsksQuantity
    (fetch : Fetch String)
    (call : Call)
    (receive : Reply → Except Fault Json) :
    Prop where
  log_eq : ∀ network log,
    (fetch.run network log).2 = { log with calls := log.calls ++ [call] }
  answer_eq : ∀ network log envelope written number,
    receive (network log.calls call) = .ok envelope → envelope.IsAnswer (.text written) →
      IsHexNumeral written number → number < 10 ^ numeralLimit →
        (fetch.run network log).1 = .ok (decimalText number)

variable {written : String} {number : Nat}

theorem Amount.read_of_isHexNumeral
    (isNumeral : IsHexNumeral written number) :
    read (.text written) = .ok number := by
  rcases isNumeral with ⟨digits, rfl, notEmpty, areDigits, rfl⟩
  exact read_hexNumeral areDigits notEmpty

theorem Evm.readQuantity_of_isHexNumeral
    (isNumeral : IsHexNumeral written number) :
    readQuantity (.text written) = .ok (.int number) := by
  rcases isNumeral with ⟨digits, rfl, notEmpty, areDigits, rfl⟩
  rw [readQuantity]
  simp only [readHexInteger_hexNumeral areDigits notEmpty]

/-- A node is asked over a transport, and its answer is read as an amount. -/
theorem Transport.asksQuantity
    (transport : Transport)
    (endpoint method : String)
    (params : Json) :
    AsksQuantity
      (transport.rpc endpoint method params >>= fun result =>
        liftM (Amount.read result >>= Amount.print))
      (.rpc transport.channel endpoint method params) transport.receive := by
  constructor
  · intro network log
    rw [run_bind_liftM, run_rpc]
  · intro network log envelope written number received answer isNumeral printable
    rw [run_bind_liftM, run_rpc, received, ok_bind, answer.readEnvelope_eq, ok_bind,
      Amount.read_of_isHexNumeral isNumeral, ok_bind, Amount.print_of_lt printable]

/-- A node is asked through the client of an indexer, which reads its answer as a quantity. -/
theorem Evm.Alchemy.asksQuantity
    (client : Alchemy)
    {method : String}
    (noBlock : method ≠ blockMethod)
    (params : List Json) :
    AsksQuantity
      (client.nodeQuantity method params >>= fun quantity => liftM quantity.print)
      (.rpc .client client.rpcUrl method (.array params)) receive := by
  have steps : (client.nodeQuantity method params >>= fun quantity => liftM quantity.print) =
      client.send method params >>= fun envelope =>
        liftM (readNodeEnvelope method params envelope >>= fun answer =>
          answer.quantity >>= NodeAnswer.print) := by
    simp only [nodeQuantity, nodeCall, bind_assoc, liftM_bind]
  rw [steps]
  constructor
  · intro network log
    rw [run_bind_liftM, run_send]
  · intro network log envelope written number received answer isNumeral printable
    rw [run_bind_liftM, run_send, received, ok_bind, answer.readNodeEnvelope_eq noBlock, ok_bind,
      NodeAnswer.quantity, readQuantity_of_isHexNumeral isNumeral, ok_bind, pure_bind,
      NodeAnswer.print, Amount.printIn_int printable]

end Holdings
