import Holdings.Evm.Alchemy
import Holdings.Proofs.Network.Replies

/-!
# Pages of a listing

The tokens of a wallet are listed in pages.  A page may carry the key of the page that follows it,
and pages are asked for along these keys, whatever keys they are and whether or not they ever come
to an end, until a page carries none or as many were asked for as are allowed.

What becomes of a listing is told by the pages that were asked for.  Their lists are joined in
order, and a page that does not come ends the listing as a fault of the transport.

Some pages do not fit.  A body of gaps alone is no JSON, but is taken for null, and a body that is
too deep comes to a fault of another class; so does a query that cannot be written.  A key that is
no text is followed like any other, as far as it can be written.  And where something stands in
place of the list that cannot be gone through, the key beside it is lost.
-/

namespace Holdings

open Fetch Outcome

/-! ## What pages tell -/

/-- The page that came with a reply, the gaps around it being skipped. -/
def Reply.page? : Reply → Option Json
  | .value page => some page
  | .status code body =>
    if 400 ≤ code then none else (Json.parseBody (Evm.Alchemy.bodyContent body)).toOption
  | .garbled _ _ _ => none
  | .refused _ => none
  | .silent => none
  | .unsent _ => none

/-- A reply with which no page comes, and which is yet no fault of the transport. -/
inductive Reply.IsStray : Reply → Prop where
  /-- A body of gaps alone. -/
  | blank
      {code : Int}
      {body : String}
      (accepted : code < 400)
      (empty : Evm.Alchemy.bodyContent body = "") :
      IsStray (.status code body)
  /-- A body that is too deep to be read. -/
  | tooDeep
      {code : Int}
      {body : String}
      (accepted : code < 400)
      (deep : Json.parseBody (Evm.Alchemy.bodyContent body) = .error .tooDeep) :
      IsStray (.status code body)
  /-- No page was asked for, since something in the query is neither a text nor a number. -/
  | unsent
      {flaw : WriteFlaw}
      (noNumber : flaw ≠ .badNumber) :
      IsStray (.unsent flaw)

/-- A call with its reply. -/
structure Asked where
  call : Call
  reply : Reply

/-- The replies of a network to calls, each after the calls before it. -/
def Network.answer
    (network : Network) :
    List Call → List Call → List Asked
  | _, [] => []
  | before, call :: rest =>
    ⟨call, network before call⟩ :: network.answer (before ++ [call]) rest

namespace Evm.Alchemy

/-- A page with a text as the key of the page that follows it. -/
def CarriesKey
    (reply : Reply)
    (key : String) :
    Prop :=
  ∃ members,
    reply.page? = some (.object members) ∧
      Json.find? members "pageKey" = some (.text key) ∧ key ≠ ""

/-- What stands in a page in the place of its list; a missing list is empty. -/
def listing
    (members : List (String × Json)) :
    Json :=
  (Json.find? members "ownedNfts").getD (.array [])

/-- A page that is an object with a list, or with none. -/
def ListsItems
    (reply : Reply)
    (items : List Json) :
    Prop :=
  ∃ members, reply.page? = some (.object members) ∧ listing members = .array items

/-- A page after which another page is asked for than the one whose key it carries. -/
inductive Misleads
    (reply : Reply) :
    Prop where
  /-- The key is followed though it is no text. -/
  | followed
      {members : List (String × Json)}
      {items : List Json}
      {key : Json}
      (page : reply.page? = some (.object members))
      (listed : (listing members).elements = .ok items)
      (there : Json.find? members "pageKey" = some key)
      (present : key.isPresent = true)
      (noText : ∀ written, key ≠ .text written) :
      Misleads reply
  /-- The key is lost, since what stands in the place of the list cannot be gone through. -/
  | lost
      {members : List (String × Json)}
      {fault : Fault}
      {key : String}
      (page : reply.page? = some (.object members))
      (unlisted : (listing members).elements = .error fault)
      (there : Json.find? members "pageKey" = some (.text key))
      (notEmpty : key ≠ "") :
      Misleads reply

/-! ## What a listing is meant to be -/

/-- The query for the page with a key, or for the first page. -/
def pageQuery
    (owner : String)
    (key : Option Json) :
    List (String × Json) :=
  [("owner", .text owner), ("withMetadata", .text "true")] ++
    key.toList.map fun key => ("pageKey", key)

/-- The call for the page with a key, or for the first page. -/
def pageCall
    (client : Alchemy)
    (owner : String)
    (key : Option Json) :
    Call :=
  .page client.nftUrl (.object (pageQuery owner key))

/-- Pages that were asked for along the keys in them, up to so many. -/
inductive Along
    (client : Alchemy)
    (owner : String) :
    Nat → Option String → List Asked → Prop where
  | spent
      (key : Option String) :
      Along client owner 0 key []
  | last
      {allowed : Nat}
      {reply : Reply}
      (key : Option String)
      (keyless : ∀ next, ¬ CarriesKey reply next) :
      Along client owner (allowed + 1) key [⟨client.pageCall owner (key.map .text), reply⟩]
  | more
      {allowed : Nat}
      {reply : Reply}
      {next : String}
      {rest : List Asked}
      (key : Option String)
      (carries : CarriesKey reply next)
      (later : Along client owner allowed (some next) rest) :
      Along client owner (allowed + 1) key
        (⟨client.pageCall owner (key.map .text), reply⟩ :: rest)

/-- The pages that a listing asked for, and what came of it. -/
structure PageRun where
  asked : List Asked
  outcome : Except Fault (List Json)

/-- The listing of an owner's tokens. -/
def pageRun
    (client : Alchemy)
    (owner : String)
    (network : Network)
    (log : Log) :
    PageRun :=
  let ended := (client.nftsOf (.text owner)).run network log
  ⟨network.answer log.calls (ended.2.calls.drop log.calls.length), ended.1⟩

/-- Pages are asked for along their keys, and are joined unless one of them does not come. -/
structure PageRun.IsPaged
    (run : PageRun)
    (client : Alchemy)
    (owner : String) :
    Prop where
  along : Along client owner pageLimit none run.asked
  joins :
    ∀ lists,
      List.Forall₂ (fun page items => ListsItems page.reply items) run.asked lists →
        run.outcome = .ok lists.flatten
  fails :
    ∀ page ∈ run.asked, page.reply.page? = none →
      (∃ earlier, run.asked = earlier ++ [page]) ∧
        ∃ fault, run.outcome = .error fault ∧ fault.kind = .transport

/-! ## What is made of a page -/

/-- The items of a page, with the key that is followed from it. -/
def readPage
    (reply : Reply) :
    Except Fault (List Json × Option Json) := do
  let page ← receivePage reply
  let owned ← (← page.lookupOr "ownedNfts" (.array [])).elements
  return (owned, (some (page.getD "pageKey")).filter Json.isPresent)

theorem Reply.page?_status
    {code : Int}
    (accepted : code < 400)
    (body : String) :
    (Reply.status code body).page? = (Json.parseBody (bodyContent body)).toOption :=
  if_neg (Int.not_le.2 accepted)

theorem receivePage_status
    {code : Int}
    (accepted : code < 400)
    (body : String) :
    receivePage (.status code body) = decodePage body :=
  if_neg (Int.not_le.2 accepted)

/-- Nothing can be read in a body without content. -/
theorem parseBody_empty :
    Json.parseBody "" = .error .malformed :=
  rfl

/-- A page that came is received. -/
theorem receivePage_of_page?
    {reply : Reply}
    {page : Json}
    (came : reply.page? = some page) :
    receivePage reply = .ok page := by
  cases reply with
  | value value =>
      cases came
      rfl
  | status code body =>
      by_cases failed : 400 ≤ code
      · rw [Reply.page?, if_pos failed] at came
        cases came
      · rw [Reply.page?, if_neg failed] at came
        have written : bodyContent body ≠ "" := by
          intro empty
          rw [empty, parseBody_empty] at came
          cases came
        rw [receivePage, if_neg failed, decodePage, if_neg written]
        cases read : Json.parseBody (bodyContent body) with
        | error fault =>
            rw [read] at came
            cases came
        | ok value =>
            rw [read] at came
            cases came
            rfl
  | _ =>
      cases came

/-- What is received is the page that came, or null. -/
theorem page?_of_receivePage
    {reply : Reply}
    {page : Json}
    (received : receivePage reply = .ok page) :
    reply.page? = some page ∨ page = .null := by
  cases reply with
  | value value =>
      cases received
      exact .inl rfl
  | status code body =>
      rw [receivePage] at received
      split at received
      · cases received
      · next accepted =>
        rw [decodePage] at received
        split at received
        · cases received
          exact .inr rfl
        · split at received
          · next read =>
            cases received
            refine .inl ?_
            rw [Reply.page?_status (Int.not_le.1 accepted), read]
            rfl
          · cases received
          · cases received
  | _ =>
      cases received

theorem readPage_of_object
    {reply : Reply}
    {members : List (String × Json)}
    (came : reply.page? = some (.object members)) :
    readPage reply =
      (listing members).elements.map fun items =>
        (items, (some ((Json.find? members "pageKey").getD .null)).filter Json.isPresent) := by
  rw [readPage, receivePage_of_page? came]
  rfl

theorem readPage_eq_ok_iff
    {reply : Reply}
    {items : List Json}
    {next : Option Json} :
    readPage reply = .ok (items, next) ↔
      ∃ members,
        reply.page? = some (.object members) ∧
          (listing members).elements = .ok items ∧
          (some ((Json.find? members "pageKey").getD .null)).filter Json.isPresent = next := by
  unfold readPage
  simp only [bind_eq_ok]
  constructor
  · rintro ⟨page, received, listed, found, owned, read, same⟩
    cases page with
    | object members =>
        cases found
        cases same
        exact ⟨members, (page?_of_receivePage received).resolve_right nofun, read, rfl⟩
    | _ =>
        cases found
  · rintro ⟨members, came, read, rfl⟩
    exact ⟨_, receivePage_of_page? came, _, rfl, items, read, rfl⟩

/-- A page that does not come is a fault of the transport. -/
theorem exists_fault_of_page?_eq_none
    {reply : Reply}
    (missing : reply.page? = none)
    (notStray : ¬ reply.IsStray) :
    ∃ fault, readPage reply = .error fault ∧ fault.kind = .transport := by
  cases reply with
  | value page =>
      cases missing
  | status code body =>
      by_cases failed : 400 ≤ code
      · refine ⟨.nftStatus code, ?_, rfl⟩
        rw [readPage, receivePage, if_pos failed]
        rfl
      · have accepted := Int.not_le.1 failed
        have written : bodyContent body ≠ "" := fun empty => notStray (.blank accepted empty)
        rw [Reply.page?_status accepted] at missing
        refine ⟨.nftMalformed, ?_, rfl⟩
        rw [readPage, receivePage_status accepted, decodePage, if_neg written]
        cases read : Json.parseBody (bodyContent body) with
        | ok page =>
            rw [read] at missing
            cases missing
        | error fault =>
            cases fault with
            | tooDeep =>
                exact absurd (.tooDeep accepted read) notStray
            | malformed | tooManyDigits =>
                rfl
  | garbled code defect first =>
      rw [readPage, receivePage]
      split
      · exact ⟨.nftStatus code, rfl, rfl⟩
      · exact ⟨.nftMalformed, rfl, rfl⟩
  | refused text =>
      exact ⟨.nftFailed text, rfl, rfl⟩
  | silent =>
      exact ⟨.nftTimedOut, rfl, rfl⟩
  | unsent flaw =>
      cases flaw with
      | badNumber =>
          exact ⟨.nftMalformed, rfl, rfl⟩
      | tooDeep | badType =>
          exact absurd (.unsent nofun) notStray

/-- A stray reply is a fault, but none of the transport. -/
theorem exists_fault_of_isStray
    {reply : Reply}
    (stray : reply.IsStray) :
    ∃ fault, readPage reply = .error fault ∧ fault.kind ≠ .transport := by
  cases stray with
  | blank accepted empty =>
      refine ⟨.noMembers, ?_, nofun⟩
      rw [readPage, receivePage_status accepted, decodePage, if_pos empty]
      rfl
  | @tooDeep code body accepted deep =>
      have written : bodyContent body ≠ "" := by
        intro empty
        rw [empty, parseBody_empty] at deep
        cases deep
      refine ⟨.tooDeep, ?_, nofun⟩
      rw [readPage, receivePage_status accepted, decodePage, if_neg written, deep]
      rfl
  | @unsent flaw noNumber =>
      cases flaw with
      | badNumber =>
          exact absurd rfl noNumber
      | tooDeep =>
          exact ⟨.tooDeep, rfl, nofun⟩
      | badType =>
          exact ⟨.wrongShape, rfl, nofun⟩

theorem page?_of_isStray
    {reply : Reply}
    (stray : reply.IsStray) :
    reply.page? = none := by
  cases stray with
  | blank accepted empty =>
      rw [Reply.page?_status accepted, empty]
      rfl
  | tooDeep accepted deep =>
      rw [Reply.page?_status accepted, deep]
      rfl
  | unsent noNumber =>
      rfl

theorem readPage_of_listsItems
    {reply : Reply}
    {items : List Json}
    (lists : ListsItems reply items) :
    ∃ next, readPage reply = .ok (items, next) := by
  rcases lists with ⟨members, came, listed⟩
  refine ⟨_, readPage_eq_ok_iff.2 ⟨members, came, ?_, rfl⟩⟩
  rw [listed]
  rfl

/-! ## Keys -/

section Keys

variable {reply : Reply} {items : List Json} {next : Json}

/-- What is followed from a page is what stands in it as its key. -/
theorem find?_of_readPage
    (read : readPage reply = .ok (items, some next)) :
    ∃ members,
      reply.page? = some (.object members) ∧
        (listing members).elements = .ok items ∧
          Json.find? members "pageKey" = some next ∧ next.isPresent = true := by
  rcases readPage_eq_ok_iff.1 read with ⟨members, came, listed, followed⟩
  rcases Option.filter_eq_some_iff.1 followed with ⟨same, present⟩
  cases found : Json.find? members "pageKey" with
  | none =>
      rw [found] at same
      cases same
      cases present
  | some key =>
      rw [found] at same
      cases same
      exact ⟨members, came, listed, found, present⟩

theorem carriesKey_of_readPage
    {key : String}
    (read : readPage reply = .ok (items, some (.text key))) :
    CarriesKey reply key := by
  rcases find?_of_readPage read with ⟨members, came, -, found, present⟩
  exact ⟨members, came, found, of_decide_eq_true present⟩

/-- A text that is followed is the only key of its page. -/
theorem eq_of_carriesKey
    {key : String}
    (read : readPage reply = .ok (items, some next))
    (carries : CarriesKey reply key) :
    next = .text key := by
  rcases find?_of_readPage read with ⟨members, came, -, found, -⟩
  rcases carries with ⟨others, also, there, -⟩
  cases came.symm.trans also
  exact Option.some.inj (found.symm.trans there)

theorem not_carriesKey_of_readPage
    (read : readPage reply = .ok (items, none))
    (key : String) :
    ¬ CarriesKey reply key := by
  rcases readPage_eq_ok_iff.1 read with ⟨members, came, -, ended⟩
  rintro ⟨others, also, there, notEmpty⟩
  cases came.symm.trans also
  have present : (Json.text key).isPresent = true := decide_eq_true notEmpty
  rw [there, Option.getD_some, Option.filter_some, if_pos present] at ended
  cases ended

/-- A page misleads where a key is followed that is no text, or a text is not followed. -/
theorem misleads_iff :
    Misleads reply ↔
      (∃ items next,
          readPage reply = .ok (items, some next) ∧ ∀ written, next ≠ .text written) ∨
        ∃ fault key, readPage reply = .error fault ∧ CarriesKey reply key := by
  constructor
  · intro misleads
    cases misleads with
    | followed came listed there present noText =>
        refine .inl ⟨_, _, readPage_eq_ok_iff.2 ⟨_, came, listed, ?_⟩, noText⟩
        rw [there, Option.getD_some, Option.filter_some, if_pos present]
    | @lost members fault key came unlisted there notEmpty =>
        have refused : readPage reply = .error fault := by
          rw [readPage_of_object came, unlisted]
          rfl
        exact .inr ⟨fault, key, refused, members, came, there, notEmpty⟩
  · rintro (⟨items, next, read, noText⟩ | ⟨fault, key, refused, members, came, there, notEmpty⟩)
    · rcases find?_of_readPage read with ⟨members, came, listed, there, present⟩
      exact .followed came listed there present noText
    · cases listed : (listing members).elements with
      | error fault =>
          exact .lost came listed there notEmpty
      | ok items =>
          rw [readPage_of_object came, listed] at refused
          cases refused

end Keys

/-! ## The pages that are asked for -/

/-- The pages that are asked for from one with a key on, as many as are allowed. -/
def trail
    (client : Alchemy)
    (owner : String)
    (network : Network) :
    Nat → Option Json → List Call → List Asked
  | 0, _, _ => []
  | allowed + 1, key, before =>
    let call := client.pageCall owner key
    let reply := network before call
    ⟨call, reply⟩ ::
      match readPage reply with
      | .ok (_, some next) => trail client owner network allowed (some next) (before ++ [call])
      | _ => []

/-- The items of pages, page by page. -/
def joinPages
    (asked : List Asked) :
    Except Fault (List Json) :=
  (asked.mapM fun page => (readPage page.reply).map Prod.fst).map List.flatten

theorem joinPages_nil :
    joinPages [] = .ok [] :=
  rfl

theorem joinPages_cons
    (page : Asked)
    (rest : List Asked) :
    joinPages (page :: rest) =
      (readPage page.reply).map Prod.fst >>= fun items => (joinPages rest).map (items ++ ·) := by
  rw [joinPages, List.mapM_cons, joinPages]
  cases (readPage page.reply).map Prod.fst with
  | error fault =>
      rfl
  | ok items =>
      rw [ok_bind, ok_bind]
      cases rest.mapM fun page => (readPage page.reply).map Prod.fst <;> rfl

theorem setMember_pageQuery
    (owner : String)
    (key : Option Json)
    (next : Json) :
    Json.setMember (pageQuery owner key) "pageKey" next = pageQuery owner (some next) := by
  cases key <;> rfl

/-- A page is asked for and read, and then those that follow it. -/
theorem nftPages_succ
    (client : Alchemy)
    (owner : String)
    (allowed : Nat)
    (key : Option Json) :
    client.nftPages (allowed + 1) (pageQuery owner key) =
      Fetch.ask (client.pageCall owner key) >>= fun reply =>
        liftM (readPage reply) >>= fun read =>
          match read.2 with
          | some next =>
            client.nftPages allowed (pageQuery owner (some next)) >>= fun more =>
              pure (read.1 ++ more)
          | none => pure read.1 := by
  simp only [nftPages, readPage, liftM_bind, bind_assoc, setMember_pageQuery]
  refine bind_congr fun reply => bind_congr fun page => bind_congr fun listed =>
    bind_congr fun owned => ?_
  rw [Option.filter_some]
  cases (page.getD "pageKey").isPresent <;> rfl

/-- A listing asks for its trail, and joins the pages on it. -/
theorem run_nftPages
    (client : Alchemy)
    (owner : String)
    (network : Network)
    (allowed : Nat)
    (key : Option Json)
    (log : Log) :
    (client.nftPages allowed (pageQuery owner key)).run network log =
      (joinPages (client.trail owner network allowed key log.calls),
        { log with
          calls := log.calls ++
            (client.trail owner network allowed key log.calls).map Asked.call }) := by
  induction allowed generalizing key log with
  | zero =>
      simp only [trail, List.map_nil, List.append_nil]
      rfl
  | succ allowed induction =>
      rw [nftPages_succ, run_bind_of_ok (run_ask _ network log), trail, joinPages_cons]
      dsimp only
      cases read : readPage (network log.calls (client.pageCall owner key)) with
      | error fault =>
          rw [run_bind_of_error (run_liftM _ network _)]
          rfl
      | ok found =>
          rcases found with ⟨items, next⟩
          rw [run_bind_of_ok (run_liftM _ network _)]
          cases next with
          | none =>
              simp only [run_pure, joinPages_nil, Except.map, ok_bind, List.append_nil,
                List.map_cons, List.map_nil]
          | some next =>
              dsimp only
              rw [run_bind, induction]
              simp only [Except.map, ok_bind, List.map_cons, List.append_assoc,
                List.singleton_append]
              cases joinPages _ <;> rfl

theorem answer_trail
    (client : Alchemy)
    (owner : String)
    (network : Network)
    (allowed : Nat)
    (key : Option Json)
    (before : List Call) :
    network.answer before ((client.trail owner network allowed key before).map Asked.call) =
      client.trail owner network allowed key before := by
  induction allowed generalizing key before with
  | zero =>
      rfl
  | succ allowed induction =>
      rw [trail, List.map_cons, Network.answer]
      split
      · rw [induction]
      · rfl

theorem pageRun_eq
    (client : Alchemy)
    (owner : String)
    (network : Network)
    (log : Log) :
    client.pageRun owner network log =
      ⟨client.trail owner network pageLimit none log.calls,
        joinPages (client.trail owner network pageLimit none log.calls)⟩ := by
  have ended := client.run_nftPages owner network pageLimit none log
  have same : client.nftsOf (.text owner) = client.nftPages pageLimit (pageQuery owner none) := rfl
  rw [pageRun, same, ended]
  dsimp only
  rw [List.drop_left, answer_trail]

/-- A page that cannot be read is the last of a trail, and the trail comes to its fault. -/
theorem ends_trail_of_error
    {client : Alchemy}
    {owner : String}
    {network : Network}
    {allowed : Nat}
    {key : Option Json}
    {before : List Call}
    {page : Asked}
    {fault : Fault}
    (member : page ∈ client.trail owner network allowed key before)
    (refused : readPage page.reply = .error fault) :
    (∃ earlier, client.trail owner network allowed key before = earlier ++ [page]) ∧
      joinPages (client.trail owner network allowed key before) = .error fault := by
  induction allowed generalizing key before with
  | zero =>
      cases member
  | succ allowed induction =>
      rw [trail, joinPages_cons]
      rw [trail] at member
      dsimp only at member ⊢
      rcases List.mem_cons.1 member with rfl | later
      · rw [refused]
        exact ⟨⟨[], rfl⟩, rfl⟩
      · split at later
        · next items next read =>
            rcases induction later with ⟨⟨earlier, split⟩, joined⟩
            rw [read, joined, split]
            exact ⟨⟨_ :: earlier, rfl⟩, rfl⟩
        · cases later

theorem joinPages_of_listsItems
    {asked : List Asked}
    {lists : List (List Json)}
    (each : List.Forall₂ (fun page items => ListsItems page.reply items) asked lists) :
    joinPages asked = .ok lists.flatten := by
  induction each with
  | nil =>
      rfl
  | cons here _ induction =>
      rcases readPage_of_listsItems here with ⟨next, read⟩
      rw [joinPages_cons, read, induction]
      rfl

/-! ## Following the keys -/

section Following

variable {client : Alchemy} {owner : String} {network : Network} {reply : Reply}

theorem along_singleton_iff
    {allowed : Nat}
    {key : Option String} :
    Along client owner (allowed + 1) key [⟨client.pageCall owner (key.map .text), reply⟩] ↔
      allowed = 0 ∨ ∀ next, ¬ CarriesKey reply next := by
  constructor
  · rintro (_ | ⟨-, keyless⟩ | ⟨-, carries, ⟨⟩⟩)
    · exact .inr keyless
    · exact .inl rfl
  · rintro (rfl | keyless)
    · by_cases carries : ∃ next, CarriesKey reply next
      · rcases carries with ⟨next, carries⟩
        exact .more key carries (.spent _)
      · exact .last key (not_exists.1 carries)
    · exact .last key keyless

theorem along_cons_iff
    {allowed : Nat}
    {key : Option String}
    {rest : List Asked}
    (goesOn : rest ≠ []) :
    Along client owner (allowed + 1) key
        (⟨client.pageCall owner (key.map .text), reply⟩ :: rest) ↔
      ∃ next, CarriesKey reply next ∧ Along client owner allowed (some next) rest := by
  constructor
  · rintro (_ | ⟨-, keyless⟩ | ⟨-, carries, later⟩)
    · exact absurd rfl goesOn
    · exact ⟨_, carries, later⟩
  · rintro ⟨next, carries, later⟩
    exact .more key carries later

theorem trail_ne_nil
    {allowed : Nat}
    {key : Option Json}
    {before : List Call} :
    client.trail owner network (allowed + 1) key before ≠ [] :=
  List.cons_ne_nil _ _

theorem trail_one
    {key : Option Json}
    {before : List Call} :
    client.trail owner network 1 key before =
      [⟨client.pageCall owner key, network before (client.pageCall owner key)⟩] := by
  rw [trail]
  split <;> rfl

/-- A trail goes along the keys in its pages when no page misleads that another may follow. -/
theorem along_trail_iff
    {allowed : Nat}
    {key : Option String}
    {before : List Call} :
    Along client owner allowed key
        (client.trail owner network allowed (key.map .text) before) ↔
      ∀ page ∈ (client.trail owner network allowed (key.map .text) before).take (allowed - 1),
        ¬ Misleads page.reply := by
  induction allowed generalizing key before with
  | zero =>
      exact iff_of_true (.spent key) nofun
  | succ allowed induction =>
      -- The last page that is allowed has none after it, so whatever is in it leads nowhere.
      cases allowed with
      | zero =>
          rw [trail_one]
          exact iff_of_true (along_singleton_iff.2 (.inl rfl)) nofun
      | succ allowed =>
          rw [trail, Nat.add_sub_cancel, List.take_succ_cons, List.forall_mem_cons, misleads_iff]
          dsimp only
          cases read : readPage (network before (client.pageCall owner (key.map .text))) with
          | error fault =>
              simp [along_singleton_iff]
          | ok found =>
              rcases found with ⟨items, next⟩
              cases next with
              | none =>
                  simpa [along_singleton_iff] using not_carriesKey_of_readPage read
              | some next =>
                  -- Another page was asked for, so only a text is a key that leads to it.
                  dsimp only
                  rw [along_cons_iff trail_ne_nil]
                  constructor
                  · rintro ⟨written, carries, later⟩
                    cases eq_of_carriesKey read carries
                    refine ⟨?_, induction.1 later⟩
                    simp
                  · rintro ⟨straight, later⟩
                    cases next with
                    | text written =>
                        exact ⟨written, carriesKey_of_readPage read, induction.2 later⟩
                    | _ =>
                        refine absurd (.inl ⟨_, _, rfl, ?_⟩) straight
                        rintro written ⟨⟩

end Following

theorem along_pageRun_iff
    {client : Alchemy}
    {owner : String}
    {network : Network}
    {log : Log} :
    Along client owner pageLimit none (client.pageRun owner network log).asked ↔
      ∀ page ∈ (client.pageRun owner network log).asked.take (pageLimit - 1),
        ¬ Misleads page.reply := by
  rw [pageRun_eq]
  exact along_trail_iff

/--
A listing asks for pages along the keys in them and joins what comes, and a page that does not
come is a fault of the transport, exactly when no reply is stray and no page misleads that another
may follow.
-/
theorem isPaged_pageRun_iff
    (client : Alchemy)
    (owner : String)
    (network : Network)
    (log : Log) :
    (client.pageRun owner network log).IsPaged client owner ↔
      (∀ page ∈ (client.pageRun owner network log).asked, ¬ page.reply.IsStray) ∧
        ∀ page ∈ (client.pageRun owner network log).asked.take (pageLimit - 1),
          ¬ Misleads page.reply := by
  rw [← along_pageRun_iff, pageRun_eq]
  constructor
  · intro paged
    refine ⟨?_, paged.along⟩
    intro page member stray
    rcases paged.fails page member (page?_of_isStray stray) with ⟨-, fault, ended, kind⟩
    rcases exists_fault_of_isStray stray with ⟨other, refused, foreign⟩
    have joined := (ends_trail_of_error member refused).2
    cases joined.symm.trans ended
    exact foreign kind
  · rintro ⟨notStray, along⟩
    refine ⟨along, fun lists => joinPages_of_listsItems, ?_⟩
    intro page member missing
    rcases exists_fault_of_page?_eq_none missing (notStray page member) with
      ⟨fault, refused, kind⟩
    rcases ends_trail_of_error member refused with ⟨last, joined⟩
    exact ⟨last, fault, joined, kind⟩

/-- A listing in which every page comes with one reply. -/
def uniformRun
    (reply : Reply) :
    PageRun :=
  pageRun ⟨"eth-mainnet", "key"⟩ "0xdEaD" (fun _ _ => reply) .empty

/--
An empty body is no fault of the transport, a number is followed, and a text beside null is lost.
-/
theorem not_isPaged_uniform :
    ((uniformRun (.status 200 "")).outcome = .error .noMembers ∧
        ¬ (uniformRun (.status 200 "")).IsPaged ⟨"eth-mainnet", "key"⟩ "0xdEaD") ∧
      ((uniformRun (.value (.object [("pageKey", .int 5)]))).asked.length = 5 ∧
        ¬ (uniformRun (.value (.object [("pageKey", .int 5)]))).IsPaged
          ⟨"eth-mainnet", "key"⟩ "0xdEaD") ∧
      ((uniformRun (.value (.object [("ownedNfts", .null), ("pageKey", .text "k")]))).asked.length =
          1 ∧
        ¬ (uniformRun (.value (.object [("ownedNfts", .null), ("pageKey", .text "k")]))).IsPaged
          ⟨"eth-mainnet", "key"⟩ "0xdEaD") := by
  refine ⟨⟨rfl, ?_⟩, ⟨rfl, ?_⟩, ⟨rfl, ?_⟩⟩
  · intro paged
    rcases paged.fails _ List.mem_cons_self rfl with ⟨-, fault, ended, kind⟩
    cases ended
    cases kind
  · intro paged
    refine along_pageRun_iff.1 paged.along _ List.mem_cons_self ?_
    exact .followed rfl rfl rfl rfl nofun
  · intro paged
    refine along_pageRun_iff.1 paged.along _ List.mem_cons_self ?_
    exact .lost rfl rfl rfl nofun

end Evm.Alchemy

end Holdings
