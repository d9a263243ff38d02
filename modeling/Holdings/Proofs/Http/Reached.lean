import Holdings.Proofs.Http.Alike

/-!
# The registries behind a server

A server begins with the registry of its settings and goes on with what each
request leaves behind.  Whatever it was asked, and whatever the networks answered,
its registry grew from the first one.
-/

namespace Holdings.Http

open Fetch

/-- The registries that a server comes to from the one with which it begins. -/
inductive Reached
    (start : Registry) :
    Registry → Prop where
  | start :
      Reached start start
  | answered
      {registry later : Registry}
      {request : Request}
      {network : Network}
      {log grown : Log}
      {reply : Answer}
      (reached : Reached start registry)
      (ended : (answer registry request).run network log = (.ok (reply, later), grown)) :
      Reached start later

variable {start registry later : Registry} {request : Request} {network : Network}
  {log grown : Log}

/-! ## One request -/

/-- The outcome of a question that was put, before its value takes its public form. -/
theorem Inquiry.exists_run_of_put
    {α : Type}
    {blamesValues : Bool}
    {body : α → Json}
    {question : Fetch (Except Fault α × Registry)}
    {outcome : Except Fault Json}
    (ended : (Inquiry.put blamesValues body question).ask.run network log =
      (.ok (outcome, later), grown)) :
    ∃ result,
      question.run network log = (.ok (result, later), grown) ∧ outcome = result.map body := by
  rcases bind_run_eq_ok ended with ⟨⟨result, left⟩, between, questioned, rest⟩
  cases rest
  exact ⟨result, questioned, rfl⟩

/-- What a route inquires about lets the registry grow. -/
theorem growsFrom_inquiry
    (grows : start.GrowsFrom registry)
    {route : Route}
    {asked : Inquiry}
    {outcome : Except Fault Json}
    (inquires : inquiry registry request route = .ok asked)
    (ended : asked.ask.run network log = (.ok (outcome, later), grown)) :
    start.GrowsFrom later := by
  cases route with
  | chains =>
      cases inquires
      rcases Inquiry.exists_run_of_put ended with ⟨result, questioned, -⟩
      have alike : start.Alike registry registry := ⟨grows, grows⟩
      rcases alike.listChains with ⟨summaries, leftLater, rightLater, listed, -, still⟩
      rw [run_pure, listed] at questioned
      cases questioned
      exact still.leftGrown
  | balances chain address =>
      rcases Outcome.bind_eq_ok.1 inquires with ⟨tier, -, same⟩
      cases same
      rcases Inquiry.exists_run_of_put ended with ⟨result, questioned, -⟩
      exact grows.balances (name_pathKey chain) questioned
  | gasPrice chain =>
      rcases Outcome.bind_eq_ok.1 inquires with ⟨tier, -, same⟩
      cases same
      rcases Inquiry.exists_run_of_put ended with ⟨result, questioned, -⟩
      exact grows.gasPrice (name_pathKey chain) questioned
  | estimateGas chain =>
      rcases Outcome.bind_eq_ok.1 inquires with ⟨read, -, same⟩
      cases same
      rcases Inquiry.exists_run_of_put ended with ⟨result, questioned, -⟩
      exact grows.estimateGas (name_pathKey chain) questioned
  | rpc chain =>
      rcases Outcome.bind_eq_ok.1 inquires with ⟨read, -, same⟩
      cases same
      rcases Inquiry.exists_run_of_put ended with ⟨result, questioned, -⟩
      exact grows.withExposed (name_pathKey chain) questioned
  | health chain =>
      rcases Outcome.bind_eq_ok.1 inquires with ⟨tier, -, same⟩
      cases same
      rcases Inquiry.exists_run_of_put ended with ⟨result, questioned, -⟩
      exact grows.withExposed (name_pathKey chain) questioned

theorem growsFrom_answerRoute
    (grows : start.GrowsFrom registry)
    {route : Route}
    {reply : Answer}
    (ended : (answerRoute registry request route).run network log =
      (.ok (reply, later), grown)) :
    start.GrowsFrom later := by
  rw [answerRoute_eq] at ended
  cases inquires : inquiry registry request route with
  | error refusal =>
      rw [inquires] at ended
      cases ended
      exact grows
  | ok asked =>
      rw [inquires] at ended
      rcases bind_run_eq_ok ended with ⟨⟨outcome, left⟩, between, questioned, rest⟩
      cases rest
      exact growsFrom_inquiry grows inquires questioned

/-- Whatever is answered, the registry grows by it. -/
theorem growsFrom_answer
    (grows : start.GrowsFrom registry)
    {reply : Answer}
    (ended : (answer registry request).run network log = (.ok (reply, later), grown)) :
    start.GrowsFrom later := by
  rcases bind_run_eq_ok ended with ⟨⟨raw, left⟩, between, answered, rest⟩
  cases rest
  cases target : Target.find request.method (decodePath request.path) with
  | found route =>
      rw [target] at answered
      exact growsFrom_answerRoute grows answered
  | _ =>
      rw [target] at answered
      cases answered
      exact grows

/-! ## All requests -/

theorem Reached.growsFrom
    (reached : Reached start registry)
    (begun : start.GrowsFrom start) :
    start.GrowsFrom registry := by
  induction reached with
  | start =>
      exact begun
  | answered _ ended grows =>
      exact growsFrom_answer grows ended

end Holdings.Http
