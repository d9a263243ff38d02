import Holdings.Http.Body
import Holdings.Http.Route
import Holdings.Registry.Queries

/-!
# Answers to requests

Every request gets a status, most of them a body.  A fault becomes a status by
its class: a chain that is not served is not found, a missing credential makes
the service unavailable, and a failed call to the network makes it a bad gateway.
Only the estimate of a transaction blames the request for an unacceptable
value; anything else that goes wrong is an internal error without a body.  So is
an answer that cannot be written, and a refusal that would have to name a value
which cannot be written.
-/

namespace Holdings.Http

/-- A request: its method, its target, its query and its body, if there is one. -/
structure Request where
  method : String
  /-- The path, still escaped. -/
  path : String
  /-- The names and values behind the path; of several values of one name the last counts. -/
  query : List (String × String)
  body : Option String
deriving Repr, Inhabited

/-- An answer: a status and a body, if there is one. -/
structure Answer where
  status : Nat
  body : Option Json
deriving Repr, Inhabited

namespace Answer

/-- A successful answer. -/
def success
    (body : Json) :
    Answer :=
  ⟨200, some body⟩

/-- An answer that says what went wrong. -/
def withDetail
    (status : Nat)
    (detail : String) :
    Answer :=
  ⟨status, some (.object [("detail", .text detail)])⟩

/-- The request does not have the right form. -/
def unprocessable : Answer := ⟨422, none⟩

/-- Something failed that the service does not account for. -/
def internalError : Answer := ⟨500, none⟩

/-- An answer whose body can be written; in place of any other there is an internal error. -/
def written
    (answer : Answer) :
    Answer :=
  if answer.body.all fun body => isWritable body && depth body ≤ depthLimit then
    answer
  else
    internalError

/-- An answer whose body is left out because only its head was asked for. -/
def withoutBody
    (answer : Answer) :
    Answer :=
  { answer with body := some .null }

/-- The answer to a request that came to a fault. -/
def ofFault
    (fault : Fault) :
    Answer :=
  match fault.kind with
  | .unsupportedChain => withDetail 404 fault.detail
  | .configuration => withDetail 503 fault.detail
  | .transport => withDetail 502 fault.detail
  | _ => internalError

/-- The answer to a transaction that came to a fault; the request is to blame for its values. -/
def ofEstimateFault
    (fault : Fault) :
    Answer :=
  if fault.kind = .value then withDetail 400 fault.detail else ofFault fault

/-- The answer of an outcome. -/
def ofOutcome
    {α : Type}
    (onFault : Fault → Answer)
    (body : α → Json)
    (outcome : Except Fault α) :
    Answer :=
  match outcome with
  | .ok value => success (body value)
  | .error fault => onFault fault

end Answer

/-- The tier that a query names; without one it is the main network. -/
def requestTier
    (request : Request) :
    Option Tier :=
  match request.query.reverse.lookup "tier" with
  | some name => Tier.ofName? name
  | none => some .mainnet

/-- The value in the body of a request; an empty body is null. -/
def readBody
    (request : Request) :
    Except Answer Json :=
  match readBodyValue (request.body.getD "") with
  | .ok value => .ok value
  | .error .malformed => .error .unprocessable
  | .error .unreadable => .error (.withDetail 400 "There was an error parsing the body")

/-- The refusal of a body for the sake of some values, which it names. -/
def refusal
    (blamed : List Json) :
    Answer :=
  if areWritable blamed then .unprocessable else .internalError

/-- The value of a model in the body of a request, and the tier that its query names. -/
def readModel
    (request : Request)
    (model : Schema.Model) :
    Except Answer (Json × Tier) := do
  let body ← readBody request
  match model.validate body, requestTier request with
  | .ok record, some tier => return (record.toJson false, tier)
  | .ok _, none => throw .unprocessable
  | .error _, _ => throw (refusal (model.blamed body))

/-- The tier as the registry is asked about it. -/
def tierValue
    (tier : Tier) :
    Json :=
  .text tier.name

/-- The key of a chain as it stands in a path. -/
def pathKey
    (chain : String) :
    ChainKey :=
  .spelled (.text chain)

/-- The public form of the health of an endpoint. -/
def healthBody
    (chain : String)
    (tier : Tier)
    (healthy : Bool) :
    Json :=
  .object [("chain", .text chain), ("tier", .text tier.name), ("healthy", .bool healthy)]

/-- Answers a question that has a tier in its query and no body. -/
def withTier
    (registry : Registry)
    (request : Request)
    (answer : Tier → Fetch (Answer × Registry)) :
    Fetch (Answer × Registry) :=
  match requestTier request with
  | some tier => answer tier
  | none => return (.unprocessable, registry)

/-- Answers a question that has a value of a model in its body. -/
def withModel
    (registry : Registry)
    (request : Request)
    (model : Schema.Model)
    (answer : Json → Tier → Fetch (Answer × Registry)) :
    Fetch (Answer × Registry) :=
  match readModel request model with
  | .ok (value, tier) => answer value tier
  | .error refusal => return (refusal, registry)

/-- Answers the question of a route. -/
def answerRoute
    (registry : Registry)
    (request : Request) :
    Route → Fetch (Answer × Registry)
  | .chains =>
    let (summaries, later) := registry.listChains
    return (.ofOutcome .ofFault
      (fun listed => .array (listed.map ChainSummary.toJson)) summaries, later)
  | .balances chain address =>
    withTier registry request fun tier => do
      let (outcome, later) ← registry.balances (pathKey chain) (.text address) (tierValue tier)
      return (.ofOutcome .ofFault Balances.toJson outcome, later)
  | .gasPrice chain =>
    withTier registry request fun tier => do
      let (outcome, later) ← registry.gasPrice (pathKey chain) (tierValue tier)
      return (.ofOutcome .ofFault (fun price => .object [("gasPrice", .text price)]) outcome,
        later)
  | .estimateGas chain =>
    withModel registry request Schema.transactionRequest fun transaction tier => do
      let (outcome, later) ←
        registry.estimateGas (pathKey chain) transaction (tierValue tier)
      return (.ofOutcome .ofEstimateFault (fun gas => .object [("gas", .text gas)]) outcome,
        later)
  | .rpc chain =>
    withModel registry request Schema.rpcRequest fun call tier => do
      let method := (call.getD "method").shown
      let (outcome, later) ←
        registry.callMethod (pathKey chain) method (call.getD "params") (tierValue tier)
      return (.ofOutcome .ofFault finiteValue outcome, later)
  | .health chain =>
    withTier registry request fun tier => do
      let (outcome, later) ← registry.checkHealth (pathKey chain) (tierValue tier)
      return (.ofOutcome .ofFault (healthBody chain tier) outcome, later)

/-- Answers what a request comes to, as if its body were wanted. -/
def answerTarget
    (registry : Registry)
    (request : Request) :
    Target → Fetch (Answer × Registry)
  | .found route => answerRoute registry request route
  | .document => return (⟨200, some .null⟩, registry)
  | .wrongMethod => return (.withDetail 405 "Method Not Allowed", registry)
  | .moved => return (⟨307, some .null⟩, registry)
  | .unknown => return (.withDetail 404 "Not Found", registry)

/-- Answers a request. -/
def answer
    (registry : Registry)
    (request : Request) :
    Fetch (Answer × Registry) := do
  let target := Target.find request.method (decodePath request.path)
  let (answer, later) ← answerTarget registry request target
  let written := answer.written
  return (if request.method = "HEAD" then written.withoutBody else written, later)

end Holdings.Http
