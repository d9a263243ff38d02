import Holdings.Network.Transport

/-!
# Connections of our own

A transport of our own opens a connection when a call needs one and none is open,
and keeps it for the calls that follow, also when a call fails.  It is closed when
the host asks for it.  What answers the calls may see over which connection each of
them comes.
-/

namespace Holdings

/-- The connections that a transport has opened so far, and the one that it holds. -/
structure Connections where
  /-- Whether each connection is still open, the first one first. -/
  opened : List Bool
  held? : Option Nat
deriving DecidableEq, Repr, Inhabited

/-- What a host wants of a transport of our own. -/
inductive Errand where
  /-- The response to a call. -/
  | call (endpoint method : String) (params : Json)
  /-- No connection that is open. -/
  | close
deriving Repr, Inhabited

/-- Whether an errand is a call. -/
def Errand.isCall : Errand → Bool
  | .call _ _ _ => true
  | .close => false

/-- A call that was served by a connection, and what it came to. -/
structure Served where
  connection : Nat
  outcome : Except Fault Json
deriving Inhabited

namespace Connections

/-- No connection was opened yet. -/
def start : Connections := ⟨[], none⟩

/-- Whether a connection was opened and not closed since. -/
def isOpen
    (connections : Connections)
    (number : Nat) :
    Bool :=
  connections.opened[number]? = some true

/-- The connection that is held, if it is open. -/
def current?
    (connections : Connections) :
    Option Nat :=
  connections.held?.filter connections.isOpen

/-- The connection that serves the next call: the one that is held and open, or else a new one. -/
def serve
    (connections : Connections) :
    Nat × Connections :=
  match connections.current? with
  | some number => (number, connections)
  | none =>
    let number := connections.opened.length
    (number, ⟨connections.opened ++ [true], some number⟩)

/-- Closes the connection that is held, unless it is closed, and holds none. -/
def close
    (connections : Connections) :
    Connections :=
  match connections.current? with
  | some number => ⟨connections.opened.set number false, none⟩
  | none => ⟨connections.opened, none⟩

end Connections

/-- A call that was made over a connection. -/
structure Sent where
  connection : Nat
  call : Call
deriving Repr, Inhabited

/-- What answers calls over connections, given those that were made before, the first one first. -/
abbrev Upstream := List Sent → Sent → Reply

/-- The connections of a transport, and what was sent over them. -/
structure Usage where
  connections : Connections
  sent : List Sent
deriving Inhabited

namespace Usage

/-- Nothing was sent yet. -/
def start : Usage := ⟨.start, []⟩

/-- Does an errand; a call that fails leaves its connection as it is. -/
def perform
    (transport : Transport)
    (upstream : Upstream)
    (usage : Usage) :
    Errand → Option Served × Usage
  | .call endpoint method params =>
    let (number, serving) := usage.connections.serve
    let network : Network := fun _ call => upstream usage.sent ⟨number, call⟩
    let (outcome, log) := (transport.send endpoint method params).run network .empty
    (some ⟨number, outcome⟩, ⟨serving, usage.sent ++ log.calls.map (Sent.mk number)⟩)
  | .close => (none, { usage with connections := usage.connections.close })

/-- Does errands one after the other, and tells how the calls among them were served. -/
def performAll
    (transport : Transport)
    (upstream : Upstream)
    (usage : Usage) :
    List Errand → List Served × Usage
  | [] => ([], usage)
  | errand :: rest =>
    let (served?, later) := usage.perform transport upstream errand
    let (others, last) := later.performAll transport upstream rest
    (served?.toList ++ others, last)

end Usage

end Holdings
