import Holdings.Json.Access

/-!
# Asking the network

A network answers calls.  Its answer to a call may depend on all calls that
were made before, so a network is a function of their history.  A call may turn out
not to be sent at all, since what it has to carry cannot be written: then it was made
in vain, and stays in the history like any other.  A `Fetch` asks a network and records
failure events; it ends with a value or with a fault, and what was asked and recorded
stays in the log in both cases.

What is recorded of a failure is the text of its error, which may come from
elsewhere: an event has this text for every way in which such an error words itself.
-/

namespace Holdings

/-- How a call reaches its endpoint. -/
inductive Channel where
  /-- Through a function that the host provides. -/
  | host
  /-- Through a connection of our own. -/
  | connection
  /-- Through the client of an indexer. -/
  | client
deriving DecidableEq, Repr, Inhabited

/-- A call to an endpoint. -/
inductive Call where
  /-- A JSON-RPC method with its parameters. -/
  | rpc (channel : Channel) (url method : String) (params : Json)
  /-- A page of a listing, with the query that selects it. -/
  | page (url : String) (query : Json)
deriving BEq, Repr, Inhabited

/-- Why what a call has to carry cannot be written. -/
inductive WriteFlaw where
  /-- A number has no form: an integer is too long, or one in a query is not finite. -/
  | badNumber
  /-- Too many arrays and objects stand within each other. -/
  | tooDeep
  /-- A value in a query is neither a text nor a number. -/
  | badType
deriving DecidableEq, Repr, Inhabited

/-- The fault that a flaw comes to. -/
def WriteFlaw.fault : WriteFlaw → Fault
  | .badNumber => .digitLimit
  | .tooDeep => .tooDeep
  | .badType => .wrongShape

/--
What a call ends with.  The client of an indexer reads its responses itself: what it takes comes
as a value, and a status with a body is a response of which it makes nothing.
-/
inductive Reply where
  /-- A JSON value. -/
  | value (value : Json)
  /-- A status and a body. -/
  | status (code : Int) (body : String)
  /-- A status and a body that is no text: where, and with which byte, it ceases to be one. -/
  | garbled (code : Int) (defect : Text.Utf8Defect) (first : UInt8)
  /-- No connection, with a text that says why. -/
  | refused (text : String)
  /-- No answer in time. -/
  | silent
  /-- Nothing was sent, since what the call has to carry cannot be written. -/
  | unsent (flaw : WriteFlaw)
deriving Repr, Inhabited

/-- What answers calls, given the calls that were made before, the first one first. -/
abbrev Network := List Call → Call → Reply

mutual

/-- The first flaw of a value that is to be written with room for so many levels. -/
def Json.flaw?
    (room : Nat) :
    Json → Option WriteFlaw
  | .int value => if (Json.int value).isShowable then none else some .badNumber
  | .array items => if room = 0 then some .tooDeep else flawOfItems? (room - 1) items
  | .object members => if room = 0 then some .tooDeep else flawOfMembers? (room - 1) members
  | _ => none

/-- The first flaw among the items of an array. -/
def Json.flawOfItems?
    (room : Nat) :
    List Json → Option WriteFlaw
  | [] => none
  | item :: rest => (flaw? room item).or (flawOfItems? room rest)

/-- The first flaw among the members of an object. -/
def Json.flawOfMembers?
    (room : Nat) :
    List (String × Json) → Option WriteFlaw
  | [] => none
  | (_, value) :: rest => (flaw? room value).or (flawOfMembers? room rest)

end

/-- The flaw of a single value in a query. -/
def Json.queryFlaw? : Json → Option WriteFlaw
  | .text _ => none
  | .int value => if (Json.int value).isShowable then none else some .badNumber
  | .double value => if value.isFinite then none else some .badNumber
  | _ => some .badType

/-- The flaw of a value in a query, where the items of an array are given one by one. -/
def Json.queryFlawOfEach? : Json → Option WriteFlaw
  | .array items => items.findSome? Json.queryFlaw?
  | value => value.queryFlaw?

/-- The first flaw of what a call has to carry; a host writes its calls in its own way. -/
def Call.flaw? : Call → Option WriteFlaw
  | .rpc .host _ _ _ => none
  | .rpc _ _ _ params => params.flaw? (Json.nestingLimit - 1)
  | .page _ (.object query) => query.findSome? fun member => member.2.queryFlawOfEach?
  | .page _ _ => some .badType

/-- How grave a failure is. -/
inductive Severity where
  | warning
  | error
deriving DecidableEq, Repr, Inhabited

/-- The name of a severity. -/
def Severity.name : Severity → String
  | .warning => "WARNING"
  | .error => "ERROR"

/-- A failure that did not reach the caller. -/
structure Event where
  severity : Severity
  chain : ChainId
  tier : Json
  operation : String
  cause : Fault
  /-- What is said about the failure, given how an error from elsewhere words itself. -/
  message : Wording → String
deriving Inhabited

/-- The event of an operation that failed: what is said is the text of an error, or its type. -/
def Event.ofError
    (severity : Severity)
    (chain : ChainId)
    (tier : Json)
    (operation : String)
    (cause : Fault)
    (error : Wording → Wording) :
    Event where
  severity := severity
  chain := chain
  tier := tier
  operation := operation
  cause := cause
  message := fun foreign => (error foreign).summary

/-- What was asked and what failed, each in order. -/
structure Log where
  calls : List Call
  events : List Event
deriving Inhabited

/-- The log before anything happened. -/
def Log.empty : Log := ⟨[], []⟩

/-- A computation that asks a network. -/
def Fetch (α : Type) : Type :=
  Network → Log → Except Fault α × Log

namespace Fetch

variable {α β : Type}

/-- Runs a computation with a network, going on from a log. -/
def run
    (fetch : Fetch α)
    (network : Network)
    (log : Log) :
    Except Fault α × Log :=
  fetch network log

/-- Asks nothing and gives a value. -/
protected def pure
    (value : α) :
    Fetch α :=
  fun _ log => (.ok value, log)

/-- Goes on with the value of a computation, unless it failed. -/
protected def bind
    (fetch : Fetch α)
    (next : α → Fetch β) :
    Fetch β :=
  fun network log =>
    match fetch network log with
    | (.ok value, later) => next value network later
    | (.error fault, later) => (.error fault, later)

instance : Monad Fetch where
  pure := Fetch.pure
  bind := Fetch.bind

@[simp]
theorem run_pure
    (value : α)
    (network : Network)
    (log : Log) :
    (pure value : Fetch α).run network log = (.ok value, log) :=
  rfl

theorem run_bind
    (fetch : Fetch α)
    (next : α → Fetch β)
    (network : Network)
    (log : Log) :
    (fetch >>= next).run network log =
      match fetch.run network log with
      | (.ok value, later) => (next value).run network later
      | (.error fault, later) => (.error fault, later) :=
  rfl

/-- Gives an outcome that needs no network. -/
def ofExcept
    (outcome : Except Fault α) :
    Fetch α :=
  fun _ log => (outcome, log)

@[simp]
theorem run_ofExcept
    (outcome : Except Fault α)
    (network : Network)
    (log : Log) :
    (ofExcept outcome).run network log = (outcome, log) :=
  rfl

instance : MonadLift (Except Fault) Fetch where
  monadLift := ofExcept

/-- Ends with a fault. -/
def fail
    (fault : Fault) :
    Fetch α :=
  ofExcept (.error fault)

/-- The outcome of a computation, as a value. -/
def attempt
    (fetch : Fetch α) :
    Fetch (Except Fault α) :=
  fun network log =>
    let (outcome, later) := fetch network log
    (.ok outcome, later)

@[simp]
theorem run_attempt
    (fetch : Fetch α)
    (network : Network)
    (log : Log) :
    (attempt fetch).run network log =
      (.ok (fetch.run network log).1, (fetch.run network log).2) :=
  rfl

/-- Makes a call. -/
def ask
    (call : Call) :
    Fetch Reply :=
  fun network log =>
    (.ok (network log.calls call), { log with calls := log.calls ++ [call] })

@[simp]
theorem run_ask
    (call : Call)
    (network : Network)
    (log : Log) :
    (ask call).run network log =
      (.ok (network log.calls call), { log with calls := log.calls ++ [call] }) :=
  rfl

/-- Records a failure. -/
def record
    (event : Event) :
    Fetch Unit :=
  fun _ log => (.ok (), { log with events := log.events ++ [event] })

@[simp]
theorem run_record
    (event : Event)
    (network : Network)
    (log : Log) :
    (record event).run network log =
      (.ok (), { log with events := log.events ++ [event] }) :=
  rfl

end Fetch

end Holdings
