import Holdings.Proofs.Json.Limits
import Holdings.Proofs.Network.Replies
import Holdings.Proofs.Provider.Failures
import Holdings.Proofs.Provider.Usable
import Holdings.Proofs.Registry.Questions

/-!
# Calls that are passed on

A provider passes a call of any method on to the endpoint of a tier: one call goes
there with the method and the parameters as they were given, and the result comes
back as it is, whatever value it is.  Nothing is asked when no tier is meant or the
tier has no route.  Whether a chain is well is told by such a call: it is when the
call comes to a result, and otherwise a warning is recorded.  All this holds of every
provider that passes calls on, whatever happened to it before, and of the registry
that asks it.

Over connections of our own there are limits.  Parameters with an integer that is too
long, or too deep within each other, cannot be written, and then nothing is sent; and
of a body with such an integer, or of such a depth, no value comes back.
-/

namespace Holdings

open Fetch

/-! ## Tiers that are meant -/

theorem Tier.ofName?_eq_some_iff
    {given : String}
    {tier : Tier} :
    ofName? given = some tier ↔ tier.name = given := by
  constructor
  · intro found
    have named := List.find?_some found
    exact of_decide_eq_true named
  · rintro rfl
    exact ofName?_name tier

/-- A text that names no tier is refused. -/
theorem Tier.exists_fault_of_read
    {given : String}
    (unknown : ∀ tier : Tier, tier.name ≠ given) :
    ∃ fault, Tier.read (.text given) = .error fault := by
  cases meant : Tier.ofName? given with
  | none =>
      refine ⟨.unknownTier (.text given), ?_⟩
      simp only [Tier.read, meant]
  | some tier =>
      exact absurd (Tier.ofName?_eq_some_iff.1 meant) (unknown tier)

/-! ## Limits -/

/-- A transport can write parameters, at whatever endpoint and in a call of whatever method. -/
def Transport.CanWrite
    (transport : Transport)
    (params : List Json) :
    Prop :=
  ∀ endpoint method, (Call.rpc transport.channel endpoint method (.array params)).flaw? = none

/-- A host is given any parameters. -/
theorem Transport.canWrite_host
    (params : List Json) :
    host.CanWrite params :=
  fun _ _ => rfl

theorem Transport.canWrite_nil
    (transport : Transport) :
    transport.CanWrite [] := by
  intro endpoint method
  cases transport <;> rfl

/-- Parameters that cannot be written are in no call. -/
theorem Transport.exists_flaw_of_not_canWrite
    {transport : Transport}
    {params : List Json}
    (unwritable : ¬ transport.CanWrite params)
    (endpoint method : String) :
    ∃ flaw, (Call.rpc transport.channel endpoint method (.array params)).flaw? = some flaw := by
  cases transport with
  | host =>
      exact absurd (canWrite_host params) unwritable
  | connection limit =>
      rw [← Option.ne_none_iff_exists']
      exact fun written => unwritable fun other name => written

/-- A reply delivers a value if its body is read without any limits. -/
inductive Reply.DeliversUnlimited : Reply → Json → Prop where
  | value
      (value : Json) :
      DeliversUnlimited (.value value) value
  | body
      {code : Int}
      {body : String}
      {value : Json}
      (accepted : code < 400)
      (read : Json.parse none body = .ok value) :
      DeliversUnlimited (.status code body) value

namespace Provider

variable {provider : Provider} {network : Network} {log : Log}

/-! ## Calls -/

/-- A text means a tier that has a route. -/
def Means
    (provider : Provider)
    (given : String)
    (tier : Tier) :
    Prop :=
  tier.name = given ∧ (provider.routes.get tier).isSome

/-- The one call that is made when a method is called at an endpoint. -/
def passedCall
    (provider : Provider)
    (url method : String)
    (params : List Json) :
    Call :=
  .rpc provider.transport.channel url method (.array params)

/-- The outcome of a call is the result in the response to it, or else a fault. -/
def IsAnswerTo
    (delivers : Reply → Json → Prop)
    (outcome : Except Fault Json)
    (reply : Reply) :
    Prop :=
  ∀ result, outcome = .ok result ↔ ∃ response, delivers reply response ∧ response.Carries result

/-- How an operation ends that asks an endpoint once, given what was asked before. -/
structure AsksOnce
    (delivers : Reply → Json → Prop)
    (run : Except Fault Json × Log)
    (call : Call)
    (network : Network)
    (log : Log) :
    Prop where
  log_eq : run.2 = { log with calls := log.calls ++ [call] }
  sent : run.2.sent = log.sent ++ [call]
  answered : IsAnswerTo delivers run.1 (network log.calls call)

/-- How an operation ends that is refused: with a fault, and with nothing sent or recorded. -/
structure IsRefused
    (run : Except Fault Json × Log)
    (log : Log) :
    Prop where
  failed : ∃ fault, run.1 = .error fault
  sent : run.2.sent = log.sent
  events : run.2.events = log.events

/-- How a check ends, given how the call that it relies on ended. -/
inductive Checks
    (event : Fault → Event) :
    Except Fault Json × Log → Except Fault Bool × Log → Prop where
  | well
      (result : Json)
      (later : Log) :
      Checks event (.ok result, later) (.ok true, later)
  | failed
      (fault : Fault)
      (later : Log) :
      Checks event (.error fault, later)
        (.ok false, { later with events := later.events ++ [event fault] })

theorem orElse_array
    (params : List Json) :
    (Json.array params).orElse (.array []) = .array params := by
  cases params <;> rfl

/-- A call at an endpoint comes to the result in the response. -/
theorem run_callMethod_of_baseUrl
    {tier : Tier}
    {url : String}
    (found : provider.baseUrl tier = .ok url)
    (method : String)
    (params : List Json)
    (network : Network)
    (log : Log) :
    (provider.callMethod method (.array params) (.text tier.name)).run network log =
      (provider.transport.receive (network log.calls (provider.passedCall url method params)) >>=
          Transport.readEnvelope method,
        { log with calls := log.calls ++ [provider.passedCall url method params] }) := by
  rw [callMethod_eq, found, liftM_ok_bind, orElse_array, Transport.run_rpc]
  rfl

theorem isAnswerTo_receive
    (transport : Transport)
    (method : String)
    (reply : Reply) :
    IsAnswerTo Reply.Delivers (transport.receive reply >>= Transport.readEnvelope method)
      reply := by
  intro result
  rw [Outcome.bind_eq_ok]
  simp only [Transport.receive_eq_ok_iff, Transport.readEnvelope_eq_ok_iff]

/-- What can be written is sent. -/
theorem asksOnce_callMethod
    {tier : Tier}
    {url : String}
    {params : List Json}
    (found : provider.baseUrl tier = .ok url)
    (writable : provider.transport.CanWrite params)
    (method : String)
    (network : Network)
    (log : Log) :
    AsksOnce Reply.Delivers
      ((provider.callMethod method (.array params) (.text tier.name)).run network log)
      (provider.passedCall url method params) network log := by
  rw [run_callMethod_of_baseUrl found]
  exact ⟨rfl, Log.sent_append_of_written (writable url method) log log.events,
    isAnswerTo_receive provider.transport method _⟩

/-- What cannot be written is refused. -/
theorem isRefused_callMethod_of_not_canWrite
    {tier : Tier}
    {url : String}
    {params : List Json}
    (found : provider.baseUrl tier = .ok url)
    (wired : network.IsWired)
    (unwritable : ¬ provider.transport.CanWrite params)
    (method : String)
    (log : Log) :
    IsRefused ((provider.callMethod method (.array params) (.text tier.name)).run network log)
      log := by
  rcases Transport.exists_flaw_of_not_canWrite unwritable url method with ⟨flaw, flawed⟩
  have unsent : network log.calls (provider.passedCall url method params) = .unsent flaw :=
    (wired log.calls _ flaw).2 flawed
  rw [run_callMethod_of_baseUrl found, unsent]
  refine ⟨⟨flaw.fault, ?_⟩, Log.sent_append_of_flaw flawed log log.events, rfl⟩
  cases provider.transport <;> rfl

/-- Without a route, nothing is asked. -/
theorem run_callMethod_of_unmeant
    {given : String}
    (unmeant : ∀ tier, ¬ provider.Means given tier)
    (method : String)
    (params : Json)
    (network : Network)
    (log : Log) :
    ∃ fault, (provider.callMethod method params (.text given)).run network log =
      (.error fault, log) := by
  by_cases known : ∃ tier : Tier, tier.name = given
  · rcases known with ⟨tier, rfl⟩
    have unrouted : provider.routes.get tier = none := by
      rw [← Option.not_isSome_iff_eq_none]
      exact fun routed => unmeant tier ⟨rfl, routed⟩
    refine ⟨.noDataSource provider.chain.id tier, ?_⟩
    rw [callMethod_eq, baseUrl_of_error (route_of_none unrouted)]
    rfl
  · rcases Tier.exists_fault_of_read (not_exists.1 known) with ⟨fault, refused⟩
    refine ⟨fault, ?_⟩
    rw [callMethod, refused]
    rfl

theorem run_checkHealth
    (provider : Provider)
    (given : Json)
    (network : Network)
    (log : Log) :
    Checks (provider.failureEvent .warning given "check_health")
      ((provider.callMethod provider.chain.healthMethod (.array []) given).run network log)
      ((provider.checkHealth given).run network log) := by
  rw [checkHealth, run_bind, run_attempt]
  rcases (provider.callMethod provider.chain.healthMethod (.array []) given).run network log with
    ⟨outcome, later⟩
  cases outcome with
  | ok result =>
      exact .well result later
  | error fault =>
      exact .failed fault later

/-! ## Questions to a registry -/

/-- A registry gives the answer of a provider that passes calls on. -/
theorem run_withExposed
    {α : Type}
    {registry resolved : Registry}
    {key : ChainKey}
    (exposes : provider.exposesCalls = true)
    (found : registry.resolve key = .ok (provider, resolved))
    (question : Provider → Fetch α)
    (network : Network)
    (log : Log) :
    ∃ later, (registry.withExposed key question).run network log =
      (.ok (((question provider).run network log).1, later),
        ((question provider).run network log).2) := by
  rcases Outcome.bind_eq_ok.1 found with ⟨name, named, -⟩
  refine ⟨resolved.put name provider, ?_⟩
  rw [Registry.withExposed, Registry.withProvider_of_ok named found]
  simp only [exposes, if_true]
  rfl

/-! ## Providers that pass calls on -/

/--
What is promised of a provider that passes calls on, given which parameters a transport can write
and which values a reply delivers.
-/
structure PassesCallsOn
    (writes : Transport → List Json → Prop)
    (delivers : Reply → Json → Prop)
    (provider : Provider) :
    Prop where
  /-- Every tier with a route has an endpoint. -/
  addressed : ∀ tier,
    (∃ url, provider.rpcEndpoint tier = .ok url) ↔ (provider.routes.get tier).isSome
  /-- One call goes to the endpoint as it was given, and its result comes back. -/
  passed : ∀ tier url method params network log,
    network.IsWired →
      writes provider.transport params →
        provider.rpcEndpoint tier = .ok url →
          AsksOnce delivers
            ((provider.callMethod method (.array params) (.text tier.name)).run network log)
            (provider.passedCall url method params) network log
  /--
  Exactly without a tier, without a route or with parameters that cannot be written, a call is
  refused and nothing is sent.
  -/
  refused : ∀ given method params network log,
    network.IsWired →
      (IsRefused ((provider.callMethod method (.array params) (.text given)).run network log)
          log ↔
        (∀ tier, ¬ provider.Means given tier) ∨ ¬ writes provider.transport params)
  /-- A check is true exactly when the call comes to a result, and else records one warning. -/
  checked : ∀ given network log,
    Checks (provider.failureEvent .warning (.text given) "check_health")
      ((provider.callMethod provider.chain.healthMethod (.array []) (.text given)).run network log)
      ((provider.checkHealth (.text given)).run network log)
  /-- A registry that knows the provider passes on what it is told. -/
  called : ∀ (registry : Registry) key resolved method params given network log,
    registry.resolve key = .ok (provider, resolved) →
      ∃ later, (registry.callMethod key method params given).run network log =
        (.ok (((provider.callMethod method params given).run network log).1, later),
          ((provider.callMethod method params given).run network log).2)
  asked : ∀ (registry : Registry) key resolved given network log,
    registry.resolve key = .ok (provider, resolved) →
      ∃ later, (registry.checkHealth key given).run network log =
        (.ok (((provider.checkHealth given).run network log).1, later),
          ((provider.checkHealth given).run network log).2)

/-- A provider that passes calls on, all whose routes have an endpoint. -/
structure IsAddressed
    (provider : Provider) :
    Prop where
  exposesCalls : provider.exposesCalls = true
  routes : ∀ tier route, provider.routes.get tier = some route →
    ∃ url, route.source.baseUrl tier route.credential = .ok url

theorem IsAddressed.rpcEndpoint_eq
    (addressed : provider.IsAddressed)
    (tier : Tier) :
    provider.rpcEndpoint tier = provider.baseUrl tier := by
  rw [rpcEndpoint, if_pos addressed.exposesCalls]

theorem IsAddressed.exists_baseUrl_iff
    (addressed : provider.IsAddressed)
    (tier : Tier) :
    (∃ url, provider.baseUrl tier = .ok url) ↔ (provider.routes.get tier).isSome := by
  cases routed : provider.routes.get tier with
  | none =>
      rw [baseUrl_of_error (route_of_none routed)]
      simp
  | some route =>
      rw [baseUrl_of_route (route_eq_ok.2 routed)]
      simp [addressed.routes tier route routed]

/-- A call that cannot be made out to an endpoint or cannot be written is refused, and no other. -/
theorem IsAddressed.isRefused_callMethod_iff
    (addressed : provider.IsAddressed)
    {network : Network}
    (wired : network.IsWired)
    (given method : String)
    (params : List Json)
    (log : Log) :
    IsRefused ((provider.callMethod method (.array params) (.text given)).run network log) log ↔
      (∀ tier, ¬ provider.Means given tier) ∨ ¬ provider.transport.CanWrite params := by
  constructor
  · intro refused
    by_contra granted
    rw [not_or, not_not] at granted
    rcases granted with ⟨meant, writable⟩
    push Not at meant
    rcases meant with ⟨tier, rfl, routed⟩
    rcases (addressed.exists_baseUrl_iff tier).2 routed with ⟨url, found⟩
    -- The call would have been sent, but nothing was.
    have sent := (asksOnce_callMethod found writable method network log).sent
    rw [refused.sent] at sent
    exact List.cons_ne_nil _ _ (List.self_eq_append_right.1 sent)
  · intro barred
    by_cases meant : ∃ tier, provider.Means given tier
    · rcases meant with ⟨tier, rfl, routed⟩
      rcases (addressed.exists_baseUrl_iff tier).2 routed with ⟨url, found⟩
      have unwritable := barred.resolve_left fun unmeant => unmeant tier ⟨rfl, routed⟩
      exact isRefused_callMethod_of_not_canWrite found wired unwritable method log
    · rcases run_callMethod_of_unmeant (not_exists.1 meant) method (.array params) network log
        with ⟨fault, ended⟩
      rw [ended]
      exact ⟨⟨fault, rfl⟩, rfl, rfl⟩

theorem IsAddressed.passesCallsOn
    (addressed : provider.IsAddressed) :
    provider.PassesCallsOn Transport.CanWrite Reply.Delivers := by
  constructor
  case addressed =>
    intro tier
    rw [addressed.rpcEndpoint_eq]
    exact addressed.exists_baseUrl_iff tier
  case passed =>
    intro tier url method params network log wired writable found
    rw [addressed.rpcEndpoint_eq] at found
    exact asksOnce_callMethod found writable method network log
  case refused =>
    intro given method params network log wired
    exact addressed.isRefused_callMethod_iff wired given method params log
  case checked =>
    intro given network log
    exact provider.run_checkHealth _ network log
  case called =>
    intro registry key resolved method params given network log found
    exact run_withExposed addressed.exposesCalls found _ network log
  case asked =>
    intro registry key resolved given network log found
    exact run_withExposed addressed.exposesCalls found _ network log

/-! ## Their lives -/

theorem IsAddressed.withBuilders
    (addressed : provider.IsAddressed)
    (builders : Tier → Builder) :
    (provider.withBuilders builders).IsAddressed := by
  refine ⟨addressed.exposesCalls, ?_⟩
  intro tier route routed
  rw [routes_withBuilders] at routed
  rcases Option.map_eq_some_iff.1 routed with ⟨standing, found, rfl⟩
  exact addressed.routes tier standing found

theorem IsAddressed.keep
    (addressed : provider.IsAddressed)
    (tier : Tier)
    (backend : Backend) :
    (provider.keep tier backend).IsAddressed :=
  ⟨addressed.exposesCalls, addressed.routes⟩

theorem IsAddressed.next
    {now : Moment}
    (addressed : now.provider.IsAddressed)
    (step : Step) :
    (now.next step).provider.IsAddressed := by
  have passes := passes now step
  have rebuilt := addressed.withBuilders step.builders
  generalize (now.next step).provider = later at passes ⊢
  generalize now.called step = calls at passes
  cases passes with
  | unneeded idle =>
      exact rebuilt
  | unrouted takes missing unrouted =>
      exact rebuilt
  | failed takes missing failed =>
      exact rebuilt
  | built takes missing routed opened same =>
      exact rebuilt.keep _ _
  | kept takes standing same =>
      exact rebuilt.keep _ _

theorem IsAddressed.after
    {now : Moment}
    (addressed : now.provider.IsAddressed)
    (steps : List Step) :
    (now.after steps).provider.IsAddressed := by
  induction steps generalizing now with
  | nil =>
      exact addressed
  | cons step rest induction =>
      exact induction (addressed.next step)

theorem isAddressed_make
    (number : Nat)
    (chain : Chain)
    (settings : Settings)
    (rendering : Rendering)
    (transport : Transport)
    (preferred : Candidate)
    (fallbacks : List Candidate) :
    (make number chain settings rendering transport true preferred fallbacks).IsAddressed := by
  refine ⟨rfl, ?_⟩
  intro tier route routed
  rw [make, ByTier.get_ofFn, findSome?_route?_eq_some_iff] at routed
  rcases routed with ⟨order, refused, offers⟩
  exact offers.exists_baseUrl

/--
A provider that is made to pass calls on keeps all that is promised of it, as far as its transport
can write parameters and read bodies, whatever its sources are and whatever a host, its builders
and the network do meanwhile.
-/
theorem passesCallsOn_after_make
    (number : Nat)
    (chain : Chain)
    (settings : Settings)
    (rendering : Rendering)
    (transport : Transport)
    (preferred : Candidate)
    (fallbacks : List Candidate)
    (log : Log)
    (steps : List Step) :
    ((⟨make number chain settings rendering transport true preferred fallbacks, log⟩ :
      Moment).after steps).provider.PassesCallsOn Transport.CanWrite Reply.Delivers := by
  apply IsAddressed.passesCallsOn
  apply IsAddressed.after
  exact isAddressed_make number chain settings rendering transport preferred fallbacks

/-! ## Beyond the limits -/

theorem means_soleProvider :
    (soleProvider .rpc).Means "mainnet" .mainnet :=
  ⟨rfl, rfl⟩

theorem isAddressed_soleProvider :
    (soleProvider .rpc).IsAddressed :=
  isAddressed_make _ _ _ _ _ _ _

/-- The least number with more digits than a number may have. -/
def tooLong : Nat := 10 ^ Json.digitLimit

/-- An integer of so many digits is in no call, and so it cannot be passed on. -/
theorem not_passesCallsOn_of_unwritable
    (delivers : Reply → Json → Prop) :
    ¬ (soleProvider .rpc).PassesCallsOn (fun _ _ => True) delivers := by
  intro passes
  rcases (isAddressed_soleProvider.exists_baseUrl_iff .mainnet).2 means_soleProvider.2 with
    ⟨url, found⟩
  have wired : Network.IsWired fun _ call => call.meets .silent :=
    Network.isWired_meets nofun
  have unwritable : ¬ (soleProvider .rpc).transport.CanWrite [.int tooLong] := by
    intro writable
    have written := (writable "" "").symm.trans (Call.flaw?_of_long (Nat.le_refl _) "" "")
    cases written
  have refused := isRefused_callMethod_of_not_canWrite found wired unwritable "m" .empty
  rcases (passes.refused "mainnet" "m" _ _ .empty wired).1 refused with unmeant | impossible
  · exact unmeant .mainnet means_soleProvider
  · exact impossible trivial

/-- A result of so many digits does not come back. -/
theorem not_passesCallsOn_of_unread
    {writes : Transport → List Json → Prop}
    (writesNothing : ∀ transport, writes transport []) :
    ¬ (soleProvider .rpc).PassesCallsOn writes Reply.DeliversUnlimited := by
  intro passes
  rcases (isAddressed_soleProvider.exists_baseUrl_iff .mainnet).2 means_soleProvider.2 with
    ⟨url, found⟩
  have wired :
      Network.IsWired fun _ call => call.meets (.status 200 (Json.resultBody tooLong)) :=
    Network.isWired_meets nofun
  have endpoint := (isAddressed_soleProvider.rpcEndpoint_eq .mainnet).trans found
  have unread : Json.parseBody (Json.resultBody tooLong) = .error .tooManyDigits :=
    Json.parseBody_resultBody (Nat.le_refl _)
  have comes (reply : Reply) : ((soleProvider .rpc).passedCall url "m" []).meets reply = reply :=
    Call.meets_of_written rfl reply
  have answered := (passes.passed .mainnet url "m" [] _ .empty wired (writesNothing _)
    endpoint).answered (.int tooLong)
  rw [run_callMethod_of_baseUrl found, comes] at answered
  -- Without limits the result would come back, but it cannot be read.
  have ended := answered.2 ⟨_, .body (by decide) (Json.parse_none_resultBody _),
    .result (by intro error present; cases present) rfl⟩
  rcases (isAnswerTo_receive _ _ _ _).1 ended with ⟨response, delivered, -⟩
  cases delivered with
  | body accepted read =>
      cases unread.symm.trans read

/-- A provider does not pass on parameters and results of all sizes; both have their limits. -/
theorem not_passesCallsOn_unlimited :
    ¬ (soleProvider .rpc).PassesCallsOn (fun _ _ => True) Reply.DeliversUnlimited ∧
      ¬ (soleProvider .rpc).PassesCallsOn (fun _ _ => True) Reply.Delivers ∧
        ¬ (soleProvider .rpc).PassesCallsOn Transport.CanWrite Reply.DeliversUnlimited :=
  ⟨not_passesCallsOn_of_unwritable _, not_passesCallsOn_of_unwritable _,
    not_passesCallsOn_of_unread Transport.canWrite_nil⟩

end Provider

end Holdings
