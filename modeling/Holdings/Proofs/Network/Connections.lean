import Holdings.Network.Connections
import Holdings.Proofs.Network.Replies

/-!
# Runs over connections of our own

Whatever a host has a transport of our own do, and whatever comes back, no connection
is open but the one that is held.  So a call is served by the connection that is open,
or opens the only one; closing leaves none.  Where the answers depend on the calls
alone, two runs that make the same calls come to the same answers, however their
connections were closed in between.

How a call ends is decided by the reply alone.  A reply without a value is in general
a fault of the transport, but not always: a body that is no text, one that is too
deep to be read, and a call that cannot be written come to faults of other classes.
A run of calls therefore ends with values and faults of the transport precisely when
it meets no such reply.
-/

namespace Holdings

open Fetch

namespace Connections

variable {connections : Connections} {number : Nat}

/-! ## What is open -/

/-- No connection is open. -/
def AllClosed
    (connections : Connections) :
    Prop :=
  ∀ number, connections.isOpen number = false

/-- No connection is open but the one that is held. -/
def HoldsOpen
    (connections : Connections) :
    Prop :=
  ∀ number, connections.isOpen number = true → connections.held? = some number

theorem current?_eq_some_iff :
    connections.current? = some number ↔
      connections.held? = some number ∧ connections.isOpen number = true :=
  Option.filter_eq_some_iff

theorem HoldsOpen.current?_eq_some
    (holds : connections.HoldsOpen)
    (isOpen : connections.isOpen number = true) :
    connections.current? = some number :=
  current?_eq_some_iff.2 ⟨holds number isOpen, isOpen⟩

/-- At most one connection is open. -/
theorem HoldsOpen.eq_of_isOpen
    (holds : connections.HoldsOpen)
    {first second : Nat}
    (firstOpen : connections.isOpen first = true)
    (secondOpen : connections.isOpen second = true) :
    first = second := by
  have held := holds first firstOpen
  rw [holds second secondOpen] at held
  exact (Option.some.inj held).symm

theorem HoldsOpen.current?_eq_none_iff
    (holds : connections.HoldsOpen) :
    connections.current? = none ↔ connections.AllClosed := by
  constructor
  · intro nothing number
    by_contra isOpen
    rw [holds.current?_eq_some (Bool.eq_true_of_not_eq_false isOpen)] at nothing
    cases nothing
  · intro allClosed
    cases current : connections.current? with
    | none =>
        rfl
    | some number =>
        have isOpen := (current?_eq_some_iff.1 current).2
        rw [allClosed number] at isOpen
        cases isOpen

theorem allClosed_start :
    start.AllClosed := by
  intro number
  rfl

theorem AllClosed.holdsOpen
    (allClosed : connections.AllClosed) :
    connections.HoldsOpen := by
  intro number isOpen
  rw [allClosed number] at isOpen
  cases isOpen

/-! ## Serving and closing -/

theorem serve_of_some
    (current : connections.current? = some number) :
    connections.serve = (number, connections) := by
  rw [serve, current]

theorem serve_of_none
    (nothing : connections.current? = none) :
    connections.serve =
      (connections.opened.length,
        ⟨connections.opened ++ [true], some connections.opened.length⟩) := by
  rw [serve, nothing]

/-- The connection that serves a call is open then. -/
theorem isOpen_serve
    (connections : Connections) :
    connections.serve.2.isOpen connections.serve.1 = true := by
  cases current : connections.current? with
  | some number =>
      rw [serve_of_some current]
      exact (current?_eq_some_iff.1 current).2
  | none =>
      rw [serve_of_none current]
      simp [isOpen]

/-- The connection that served a call serves the next one, too. -/
theorem serve_serve
    (connections : Connections) :
    connections.serve.2.serve = connections.serve := by
  cases current : connections.current? with
  | some number =>
      rw [serve_of_some current, serve_of_some current]
  | none =>
      have opened := isOpen_serve connections
      rw [serve_of_none current] at opened ⊢
      exact serve_of_some (current?_eq_some_iff.2 ⟨rfl, opened⟩)

theorem HoldsOpen.serve
    (holds : connections.HoldsOpen) :
    connections.serve.2.HoldsOpen := by
  cases current : connections.current? with
  | some number =>
      rw [serve_of_some current]
      exact holds
  | none =>
      rw [serve_of_none current]
      have allClosed := holds.current?_eq_none_iff.1 current
      intro number opened
      -- None of the earlier connections is open, so it is the one that was added.
      have closed : connections.opened[number]? ≠ some true := of_decide_eq_false (allClosed number)
      have added : (connections.opened ++ [true])[number]? = some true := of_decide_eq_true opened
      rcases Nat.lt_trichotomy number connections.opened.length with earlier | rfl | later
      · rw [List.getElem?_append_left earlier] at added
        exact absurd added closed
      · rfl
      · rw [List.getElem?_eq_none (by rwa [List.length_append])] at added
        cases added

theorem HoldsOpen.allClosed_close
    (holds : connections.HoldsOpen) :
    connections.close.AllClosed := by
  cases current : connections.current? with
  | none =>
      rw [close, current]
      exact holds.current?_eq_none_iff.1 current
  | some held =>
      rw [close, current]
      intro number
      apply decide_eq_false
      intro opened
      -- Another connection would have been open before, and so it would have been held.
      rw [List.getElem?_set] at opened
      split at opened
      · split at opened <;> cases opened
      · next other =>
        have before := holds.current?_eq_some (decide_eq_true opened)
        rw [current] at before
        exact other (Option.some.inj before)

theorem length_opened_close
    (connections : Connections) :
    connections.close.opened.length = connections.opened.length := by
  rw [close]
  split
  · exact List.length_set
  · rfl

theorem close_close
    (connections : Connections) :
    connections.close.close = connections.close := by
  have nothing : connections.close.current? = none := by
    rw [close]
    split <;> rfl
  have unheld : connections.close.held? = none := by
    rw [close]
    split <;> rfl
  rw [close, nothing]
  exact congrArg (Connections.mk _) unheld.symm

/-- A call after closing is served by a second connection. -/
example : start.serve.2.close.serve.1 = 1 :=
  rfl

/-! ## What is promised of a call -/

/-- A call is served by the connection that is open, or else by a new one. -/
structure IsServed
    (before : Connections)
    (number : Nat)
    (after : Connections) :
    Prop where
  isOpen : after.isOpen number = true
  kept : ∀ other, before.isOpen other = true → number = other ∧ after = before
  added : before.AllClosed →
    number = before.opened.length ∧ after.opened = before.opened ++ [true]

theorem HoldsOpen.isServed
    (holds : connections.HoldsOpen) :
    IsServed connections connections.serve.1 connections.serve.2 := by
  constructor
  case isOpen =>
    exact isOpen_serve connections
  case kept =>
    intro other isOpen
    rw [serve_of_some (holds.current?_eq_some isOpen)]
    exact ⟨rfl, rfl⟩
  case added =>
    intro allClosed
    rw [serve_of_none (holds.current?_eq_none_iff.2 allClosed)]
    exact ⟨rfl, rfl⟩

end Connections

/-- A reply gives an outcome: the value that it brings, or else a fault of the transport. -/
def Reply.Gives
    (reply : Reply)
    (outcome : Except Fault Json) :
    Prop :=
  (∃ value, reply.Delivers value ∧ outcome = .ok value) ∨
    (∀ value, ¬ reply.Delivers value) ∧
      ∃ fault, outcome = .error fault ∧ fault.kind = .transport

theorem Reply.gives_receive_iff
    (reply : Reply)
    (limit : String) :
    reply.Gives ((Transport.connection limit).receive reply) ↔ ¬ reply.Escapes := by
  constructor
  · intro gives escapes
    rcases Transport.exists_fault_of_escapes escapes limit with ⟨fault, received, foreign⟩
    rw [received] at gives
    rcases gives with ⟨value, -, same⟩ | ⟨-, other, same, kind⟩
    · cases same
    · cases same
      exact foreign kind
  · intro caught
    by_cases delivered : ∃ value, reply.Delivers value
    · rcases delivered with ⟨value, delivers⟩
      exact .inl ⟨value, delivers, Transport.receive_eq_ok_iff.2 delivers⟩
    · have nothing := not_exists.1 delivered
      exact .inr ⟨nothing, Transport.exists_fault_of_not_delivers nothing caught limit⟩

/-- What an upstream answers depends on the calls, and not on the connections. -/
def Upstream.IsUniform
    (upstream : Upstream) :
    Prop :=
  ∃ network : Network, ∀ earlier sent,
    upstream earlier sent = network (earlier.map Sent.call) sent.call

/-! ## Runs -/

namespace Usage

variable {transport : Transport} {upstream : Upstream} {usage other : Usage}

/-- What comes back for a call that is made next. -/
def replyTo
    (upstream : Upstream)
    (usage : Usage)
    (call : Call) :
    Reply :=
  upstream usage.sent ⟨usage.connections.serve.1, call⟩

theorem perform_call
    (transport : Transport)
    (upstream : Upstream)
    (usage : Usage)
    (endpoint method : String)
    (params : Json) :
    usage.perform transport upstream (.call endpoint method params) =
      (some ⟨usage.connections.serve.1, transport.receive
          (usage.replyTo upstream (.rpc transport.channel endpoint method params))⟩,
        ⟨usage.connections.serve.2,
          usage.sent ++
            [⟨usage.connections.serve.1, .rpc transport.channel endpoint method params⟩]⟩) :=
  rfl

theorem holdsOpen_perform
    (holds : usage.connections.HoldsOpen)
    (transport : Transport)
    (upstream : Upstream)
    (errand : Errand) :
    (usage.perform transport upstream errand).2.connections.HoldsOpen := by
  cases errand with
  | call endpoint method params =>
      exact holds.serve
  | close =>
      exact holds.allClosed_close.holdsOpen

theorem holdsOpen_performAll
    (holds : usage.connections.HoldsOpen)
    (transport : Transport)
    (upstream : Upstream)
    (errands : List Errand) :
    (usage.performAll transport upstream errands).2.connections.HoldsOpen := by
  induction errands generalizing usage with
  | nil =>
      exact holds
  | cons errand rest induction =>
      exact induction (holdsOpen_perform holds transport upstream errand)

theorem performAll_cons
    (transport : Transport)
    (upstream : Upstream)
    (usage : Usage)
    (errand : Errand)
    (rest : List Errand) :
    usage.performAll transport upstream (errand :: rest) =
      ((usage.perform transport upstream errand).1.toList ++
          ((usage.perform transport upstream errand).2.performAll transport upstream rest).1,
        ((usage.perform transport upstream errand).2.performAll transport upstream rest).2) :=
  rfl

theorem performAll_append
    (transport : Transport)
    (upstream : Upstream)
    (usage : Usage)
    (before after : List Errand) :
    usage.performAll transport upstream (before ++ after) =
      let first := usage.performAll transport upstream before
      let second := first.2.performAll transport upstream after
      (first.1 ++ second.1, second.2) := by
  induction before generalizing usage with
  | nil =>
      rfl
  | cons errand rest induction =>
      simp only [List.cons_append, performAll_cons, induction, List.append_assoc]

/-- The replies that the calls among errands meet. -/
def replies
    (transport : Transport)
    (upstream : Upstream)
    (usage : Usage) :
    List Errand → List Reply
  | [] => []
  | .call endpoint method params :: rest =>
    usage.replyTo upstream (.rpc transport.channel endpoint method params) ::
      (usage.perform transport upstream (.call endpoint method params)).2.replies transport
        upstream rest
  | .close :: rest =>
    (usage.perform transport upstream .close).2.replies transport upstream rest

/-- Every call ends with what the transport makes of the reply to it. -/
theorem map_outcome_performAll
    (transport : Transport)
    (upstream : Upstream)
    (usage : Usage)
    (errands : List Errand) :
    (usage.performAll transport upstream errands).1.map Served.outcome =
      (usage.replies transport upstream errands).map transport.receive := by
  induction errands generalizing usage with
  | nil =>
      rfl
  | cons errand rest induction =>
      cases errand with
      | call endpoint method params =>
          exact congrArg (List.cons _) (induction _)
      | close =>
          exact induction _

/-! ## Runs without closing -/

/-- Usages with the same calls meet the same replies, and closing does not matter. -/
theorem replies_filter
    (uniform : upstream.IsUniform)
    (alike : usage.sent.map Sent.call = other.sent.map Sent.call)
    (errands : List Errand) :
    other.replies transport upstream (errands.filter Errand.isCall) =
      usage.replies transport upstream errands := by
  induction errands generalizing usage other with
  | nil =>
      rfl
  | cons errand rest induction =>
      cases errand with
      | call endpoint method params =>
          have same (call : Call) : other.replyTo upstream call = usage.replyTo upstream call := by
            rcases uniform with ⟨network, answers⟩
            rw [replyTo, replyTo, answers, answers, alike]
          have still :
              (usage.perform transport upstream (.call endpoint method params)).2.sent.map
                  Sent.call =
                (other.perform transport upstream (.call endpoint method params)).2.sent.map
                  Sent.call := by
            simp only [perform_call, List.map_append, alike, List.map_cons, List.map_nil]
          exact congrArg₂ List.cons (same _) (induction still)
      | close =>
          exact induction alike

/-- Calls alone are all served by the connection that serves the first. -/
theorem connection_eq_serve
    {errands : List Errand}
    (calls : ∀ errand ∈ errands, errand.isCall = true) :
    ∀ one ∈ (usage.performAll transport upstream errands).1,
      one.connection = usage.connections.serve.1 := by
  induction errands generalizing usage with
  | nil =>
      intro one member
      cases member
  | cons errand rest induction =>
      cases errand with
      | call endpoint method params =>
          intro one member
          rw [performAll_cons, perform_call] at member
          rcases List.mem_cons.1 member with rfl | inRest
          · rfl
          · have later := induction (fun errand inside => calls errand (.tail _ inside)) one inRest
            rwa [Connections.serve_serve] at later
      | close =>
          cases calls .close List.mem_cons_self

end Usage

/-! ## What is promised of a run -/

namespace Connections

/-- What a transport of our own does from the start: how calls are served, and the use it made. -/
def run
    (limit : String)
    (upstream : Upstream)
    (errands : List Errand) :
    List Served × Usage :=
  Usage.start.performAll (.connection limit) upstream errands

variable {limit : String} {upstream : Upstream} {errands : List Errand}

theorem run_append
    (limit : String)
    (upstream : Upstream)
    (errands : List Errand)
    (errand : Errand) :
    run limit upstream (errands ++ [errand]) =
      ((run limit upstream errands).1 ++
          ((run limit upstream errands).2.perform (.connection limit) upstream errand).1.toList,
        ((run limit upstream errands).2.perform (.connection limit) upstream errand).2) := by
  rw [run, Usage.performAll_append]
  simp only [Usage.performAll, List.append_nil]
  rfl

theorem run_append_close
    (limit : String)
    (upstream : Upstream)
    (errands : List Errand) :
    run limit upstream (errands ++ [.close]) =
      ((run limit upstream errands).1,
        ⟨(run limit upstream errands).2.connections.close,
          (run limit upstream errands).2.sent⟩) := by
  rw [run_append]
  simp only [Usage.perform, Option.toList, List.append_nil]

theorem holdsOpen_run
    (limit : String)
    (upstream : Upstream)
    (errands : List Errand) :
    (run limit upstream errands).2.connections.HoldsOpen :=
  Usage.holdsOpen_performAll allClosed_start.holdsOpen _ _ _

/-- None is open at the start and after closing, and only then. -/
theorem allClosed_run_iff
    (limit : String)
    (upstream : Upstream)
    (errands : List Errand) :
    (run limit upstream errands).2.connections.AllClosed ↔
      ∀ errand ∈ errands.getLast?, errand = .close := by
  rcases errands.eq_nil_or_concat' with rfl | ⟨before, last, rfl⟩
  · exact iff_of_true allClosed_start (by simp)
  · have holds := holdsOpen_run limit upstream before
    rw [run_append]
    simp only [List.getLast?_append, List.getLast?_singleton, Option.some_or, Option.mem_some_iff,
      forall_eq']
    cases last with
    | call endpoint method params =>
        refine iff_of_false ?_ (by simp)
        intro allClosed
        have closed := allClosed (run limit upstream before).2.connections.serve.1
        have opened := isOpen_serve (run limit upstream before).2.connections
        rw [Usage.perform_call] at closed
        rw [opened] at closed
        cases closed
    | close =>
        exact iff_of_true holds.allClosed_close rfl

/-- What is promised of the connections, whatever comes back over them. -/
structure KeepsOneOpen
    (limit : String)
    (upstream : Upstream)
    (errands : List Errand) :
    Prop where
  /-- At most one connection is open, and none exactly at the start and after closing. -/
  single : ∀ first second,
    (run limit upstream errands).2.connections.isOpen first = true →
      (run limit upstream errands).2.connections.isOpen second = true → first = second
  allClosed_iff :
    (run limit upstream errands).2.connections.AllClosed ↔
      ∀ errand ∈ errands.getLast?, errand = .close
  /-- A further call is made once, and leaves a connection as it is, also when it fails. -/
  call : ∀ endpoint method params, ∃ one,
    (run limit upstream (errands ++ [.call endpoint method params])).1 =
        (run limit upstream errands).1 ++ [one] ∧
      (run limit upstream (errands ++ [.call endpoint method params])).2.sent =
          (run limit upstream errands).2.sent ++
            [⟨one.connection, .rpc .connection endpoint method params⟩] ∧
        IsServed (run limit upstream errands).2.connections one.connection
          (run limit upstream (errands ++ [.call endpoint method params])).2.connections
  /-- Closing sends nothing and leaves nothing open, and closing again changes nothing. -/
  close :
    (run limit upstream (errands ++ [.close])).1 = (run limit upstream errands).1 ∧
      (run limit upstream (errands ++ [.close])).2.sent = (run limit upstream errands).2.sent ∧
        (run limit upstream (errands ++ [.close])).2.connections.AllClosed ∧
          (run limit upstream (errands ++ [.close])).2.connections.opened.length =
              (run limit upstream errands).2.connections.opened.length ∧
            run limit upstream (errands ++ [.close] ++ [.close]) =
              run limit upstream (errands ++ [.close])
  /-- Without closing, the calls come to the same answers, all over the first connection. -/
  withoutClosing : upstream.IsUniform →
    (run limit upstream (errands.filter Errand.isCall)).1.map Served.outcome =
        (run limit upstream errands).1.map Served.outcome ∧
      ∀ one ∈ (run limit upstream (errands.filter Errand.isCall)).1, one.connection = 0

theorem keepsOneOpen
    (limit : String)
    (upstream : Upstream)
    (errands : List Errand) :
    KeepsOneOpen limit upstream errands := by
  have holds := holdsOpen_run limit upstream errands
  constructor
  case single =>
    intro first second
    exact holds.eq_of_isOpen
  case allClosed_iff =>
    exact allClosed_run_iff limit upstream errands
  case call =>
    intro endpoint method params
    rw [run_append]
    exact ⟨_, rfl, rfl, holds.isServed⟩
  case close =>
    have again := run_append_close limit upstream (errands ++ [.close])
    rw [run_append_close limit upstream errands, close_close] at again
    rw [run_append_close]
    exact ⟨rfl, rfl, holds.allClosed_close, length_opened_close _, again⟩
  case withoutClosing =>
    intro uniform
    refine ⟨?_, Usage.connection_eq_serve ?_⟩
    · rw [run, run, Usage.map_outcome_performAll, Usage.map_outcome_performAll,
        Usage.replies_filter uniform rfl]
    · intro errand member
      exact (List.mem_filter.1 member).2

/-- The replies that the calls of a run meet. -/
def met
    (limit : String)
    (upstream : Upstream)
    (errands : List Errand) :
    List Reply :=
  Usage.start.replies (.connection limit) upstream errands

/-- Every call of a run ends with the value that its reply brings, or a fault of the transport. -/
def AnswersAlways
    (limit : String)
    (upstream : Upstream)
    (errands : List Errand) :
    Prop :=
  List.Forall₂ Reply.Gives (met limit upstream errands)
    ((run limit upstream errands).1.map Served.outcome)

theorem answersAlways_iff
    (limit : String)
    (upstream : Upstream)
    (errands : List Errand) :
    AnswersAlways limit upstream errands ↔
      ∀ reply ∈ met limit upstream errands, ¬ reply.Escapes := by
  rw [AnswersAlways, run, Usage.map_outcome_performAll, ← met, List.forall₂_map_right_iff,
    List.forall₂_same]
  exact forall₂_congr fun reply _ => reply.gives_receive_iff limit

/--
A transport of our own keeps to one connection in every run, and all calls of the run end with
values or faults of the transport exactly when none of them meets a reply that escapes.
-/
theorem keepsOneOpen_and_answersAlways_iff
    (limit : String)
    (upstream : Upstream)
    (errands : List Errand) :
    KeepsOneOpen limit upstream errands ∧
      (AnswersAlways limit upstream errands ↔
        ∀ reply ∈ met limit upstream errands, ¬ reply.Escapes) :=
  ⟨keepsOneOpen limit upstream errands, answersAlways_iff limit upstream errands⟩

/-- A single call is enough. -/
theorem not_answersAlways_of_escapes
    {endpoint method : String}
    {params : Json}
    (escapes : (upstream [] ⟨0, .rpc .connection endpoint method params⟩).Escapes)
    (limit : String) :
    ¬ AnswersAlways limit upstream [.call endpoint method params] := by
  rw [answersAlways_iff]
  intro caught
  exact caught _ List.mem_cons_self escapes

/--
A body with a byte that is in no text, a body of one bracket more than can be read, and a call
that is not sent are each a reason why a call ends with a fault of another class.
-/
theorem not_answersAlways_garbled :
    ¬ AnswersAlways "15.0" (fun _ _ => .garbled 200 ⟨12, 1, .badStart⟩ 0xff)
        [.call "https://rpc.example" "m" (.array [])] ∧
      ¬ AnswersAlways "15.0"
          (fun _ _ => .status 200 (String.ofList (List.replicate (Json.nestingLimit + 1) '[')))
          [.call "https://rpc.example" "m" (.array [])] ∧
        ¬ AnswersAlways "15.0" (fun _ sent => sent.call.meets (.value .null))
          [.call "https://rpc.example" "m" (.array [.int (10 ^ Json.digitLimit : Nat)])] := by
  refine ⟨?_, ?_, ?_⟩
  · exact not_answersAlways_of_escapes (.garbled _ _ _) _
  · exact not_answersAlways_of_escapes
      (Reply.escapes_brackets (by decide) (Nat.lt_succ_self _)) _
  · apply not_answersAlways_of_escapes
    dsimp only [Call.meets]
    rw [Call.flaw?_of_long (Nat.le_refl _)]
    exact .unsent _

end Connections

end Holdings
