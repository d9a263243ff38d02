import Holdings.Evm.Form
import Holdings.Evm.Reversal

/-!
# Envelopes of a node's answers

A node wraps its answer in an envelope, which has to keep all rules of JSON-RPC:
version 2.0, a number, and either a result or an error.  In place of both there
may be a notice to a subscriber, which needs no number if it names its
subscription well.  An error that keeps the rules is told apart from an envelope
that does not.

Two more checks come before these rules, and their order shows in which fault an
envelope with several flaws comes to.
-/

namespace Holdings.Evm

/-- What a node answers a call with. -/
inductive NodeAnswer where
  | result (value : Json)
  /-- A notice to a subscriber. -/
  | notice (subscription content : Json)
deriving Inhabited, Repr

namespace NodeAnswer

/-- An answer as a value. -/
def value : NodeAnswer → Json
  | .result value => value
  | .notice subscription content =>
    .object [("subscription", subscription), ("result", content)]

/-- A notice as a message names it: only its result is marked. -/
def quotedNotice
    (subscription content : Json) :
    String :=
  Json.plainMarks.opening ++
    Json.quotedText "subscription" ++ ": " ++ subscription.quoted ++ ", " ++
    Json.quotedText "result" ++ ": " ++ content.quotedIn Json.recordMarks ++
    Json.plainMarks.closing

/-- The text of an answer, in which the objects of results are marked. -/
def print
    (answer : NodeAnswer) :
    Except Fault String :=
  match answer with
  | .result value => value.printIn Json.recordMarks
  | .notice subscription content =>
    if answer.value.isShowable then
      .ok (quotedNotice subscription content)
    else
      .error .digitLimit

/-- An answer whose result is a quantity. -/
def quantity : NodeAnswer → Except Fault NodeAnswer
  | .result value => do
    return .result (← readQuantity value)
  | .notice subscription content => .ok (.notice subscription content)

end NodeAnswer

/-- The largest number of bytes of the extra data of a block. -/
def extraDataLimit : Nat := 32

/-- Checks the extra data of a block; what stands for no bytes is let through. -/
def checkExtraData
    (block : Json) :
    Except Fault Unit := do
  let given ← block.lookup "extraData"
  match given with
  | .text _ | .int _ | .bool _ =>
    let bytes ← bytesOf given
    if extraDataLimit < bytes.length then throw .badNodeResponse else return ()
  | _ => return ()

/-- The method that asks for a block. -/
def blockMethod : String := "eth_getBlockByNumber"

/-- The method that asks for an estimate. -/
def estimateMethod : String := "eth_estimateGas"

/-- The length of a subscription that is no text. -/
def subscriptionLength : Nat := 34

/-- Checks the result of an envelope, or in its absence the result of the notice in it. -/
def checkContent
    (method : String)
    (members : List (String × Json)) :
    Except Fault Unit := do
  let result := (Json.find? members "result").getD .null
  let notice := (Json.find? members "params").getD .null
  if method = blockMethod && !result.isNull then
    checkExtraData result
  else if !notice.isNull then
    let inner ← notice.lookup "result"
    if method = blockMethod && !inner.isNull then checkExtraData inner else return ()
  else
    return ()

/-- Checks that a notice in place of a result is an object. -/
def checkNotice
    (members : List (String × Json)) :
    Except Fault Unit :=
  match Json.find? members "result", Json.find? members "params" with
  | none, some (.object _) => .ok ()
  | none, some _ => .error .wrongShape
  | _, _ => .ok ()

/-- The subscription and the result of the notice in an envelope, if it is one. -/
def notice?
    (members : List (String × Json)) :
    Except Fault (Option (Json × Json)) := do
  let notice := (Json.find? members "params").getD .null
  if Json.find? members "method" == some (.text "eth_subscription") && !notice.isNull then
    let subscription ← notice.lookup "subscription"
    let result ← notice.lookup "result"
    return if subscription.isNull || result.isNull then none else some (subscription, result)
  else
    return none

/-- Checks the subscription of a notice without number. -/
def checkSubscription : Json → Except Fault Unit
  | .text _ => .ok ()
  | .array items =>
    if items.length = subscriptionLength then .ok () else .error .badNodeResponse
  | .object members =>
    if members.length = subscriptionLength then .ok () else .error .badNodeResponse
  | _ => .error .wrongShape

/-- Whether an envelope has a number: an integer, or null beside an error. -/
def hasNumber
    (members : List (String × Json)) :
    Bool :=
  match Json.find? members "id" with
  | some (.int _) => true
  | some (.bool _) => true
  | some (.text written) => (Text.readInteger written).isSome
  | some .null => (Json.find? members "error").isSome
  | _ => false

/-- Checks the version and the number of an envelope; a notice needs no number. -/
def checkNumbering
    (members : List (String × Json))
    (notice : Option (Json × Json)) :
    Except Fault Unit := do
  if Json.find? members "jsonrpc" != some (.text "2.0") then
    throw .badNodeResponse
  if (Json.find? members "id").isSome then
    if hasNumber members then return () else throw .badNodeResponse
  else
    match notice with
    | some (subscription, _) => checkSubscription subscription
    | none => throw .badNodeResponse

/-- The message with which a node says that it does not know a transaction. -/
def unknownTransaction : String := "transaction not found"

/-- The fault of an error with a code, given the call that it answers. -/
def refusal
    (method : String)
    (error : Json) :
    Fault :=
  if method = estimateMethod then
    match checkReversal (error.getD "data") with
    | .ok _ => .nodeRefused
    | .error fault => fault
  else
    .nodeRefused

/--
The fault of an error in an envelope.  One that does not know a transaction is about the
first parameter, which has to be there.
-/
def errorFault
    (method : String)
    (params : List Json)
    (error : Json) :
    Fault :=
  match error.get? "message" with
  | some (.text message) =>
    if message = unknownTransaction && params.isEmpty then
      .missingItem
    else
      match error.get? "code" with
      | some (.int _) => refusal method error
      | some (.bool _) => refusal method error
      | _ => .badNodeResponse
  | _ => .badNodeResponse

/-- What the envelope of a node holds, given the call that it answers. -/
def readNodeEnvelope
    (method : String)
    (params : List Json)
    (envelope : Json) :
    Except Fault NodeAnswer :=
  match envelope with
  | .object members => do
    checkContent method members
    checkNotice members
    let notice ← notice? members
    checkNumbering members notice
    match Json.find? members "error", Json.find? members "result", notice with
    | none, some result, _ => return .result result
    | some error, none, _ => throw (errorFault method params error)
    | none, none, some (subscription, content) => return .notice subscription content
    | none, none, none => throw .badNodeResponse
    | some _, some _, _ => throw .badNodeResponse
  | _ => .error .badNodeResponse

end Holdings.Evm
