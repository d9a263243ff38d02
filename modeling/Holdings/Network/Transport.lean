import Holdings.Json.Parser
import Holdings.Network.Basic

/-!
# Sending JSON-RPC calls

A transport carries a call to an endpoint and brings back the JSON value of the
response.  `rpc` reads a response as a JSON-RPC envelope: it gives the result
and takes everything else for a fault.
-/

namespace Holdings

/-- What carries calls to endpoints. -/
inductive Transport where
  /-- A function of the host. -/
  | host
  /-- Connections of our own; a response has to come within so many seconds. -/
  | connection (limit : String)
deriving DecidableEq, Repr, Inhabited

namespace Transport

/-- The transport that is used when the host provides none. -/
def standard : Transport := .connection "15.0"

/-- The channel of a transport's calls. -/
def channel : Transport → Channel
  | .host => .host
  | .connection _ => .connection

/-- The JSON value of a body; one that is too deep is no malformed body. -/
def decodeBody
    (body : String) :
    Except Fault Json :=
  match Json.parseBody body with
  | .ok value => .ok value
  | .error .tooDeep => .error .tooDeep
  | .error _ => .error .malformedResponse

/-- What a transport makes of a reply; of a body that is no text it makes nothing. -/
def receive : Transport → Reply → Except Fault Json
  | _, .value value => .ok value
  | _, .status code body =>
    if 400 ≤ code then .error (.badStatus code body) else decodeBody body
  | _, .garbled _ defect first => .error (.undecodable defect first)
  | _, .unsent flaw => .error flaw.fault
  | .host, .refused text => .error (.transport text)
  | .connection _, .refused text => .error (.requestFailed text)
  | .host, .silent => .error .timedOut
  | .connection limit, .silent => .error (.requestTimedOut limit)

/-- Sends a call and brings back the JSON value of the response. -/
def send
    (transport : Transport)
    (endpoint method : String)
    (params : Json) :
    Fetch Json := do
  let reply ← Fetch.ask (.rpc transport.channel endpoint method params)
  transport.receive reply

theorem run_send
    (transport : Transport)
    (endpoint method : String)
    (params : Json)
    (network : Network)
    (log : Log) :
    (transport.send endpoint method params).run network log =
      (transport.receive (network log.calls (.rpc transport.channel endpoint method params)),
        { log with calls := log.calls ++ [.rpc transport.channel endpoint method params] }) :=
  rfl

/-- What the error member of an envelope says: its message, if it is an object. -/
def errorText : Json → Json
  | .object members => (Json.find? members "message").getD .null
  | error => error

/-- The fault of a method that answered with an error. -/
def errorFault
    (method : String)
    (error : Json) :
    Fault :=
  let text := errorText error
  Fault.naming text (.errorResponse method text)

/-- The result in an envelope; everything else is a fault of the method. -/
def readEnvelope
    (method : String)
    (response : Json) :
    Except Fault Json :=
  match response with
  | .object members =>
    let error := (Json.find? members "error").getD .null
    if error.isNull then
      match Json.find? members "result" with
      | some result => .ok result
      | none => .error (.missingResult method)
    else
      .error (errorFault method error)
  | _ => .error (Fault.naming response (.unexpectedResponse method response))

/-- Calls a method at an endpoint and gives its result. -/
def rpc
    (transport : Transport)
    (endpoint method : String)
    (params : Json) :
    Fetch Json := do
  let response ← transport.send endpoint method params
  readEnvelope method response

end Transport

end Holdings
