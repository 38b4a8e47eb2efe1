import Mathlib.Logic.Relation
import QueryGate.Proofs.Planner.Answer
/-!
What a planner counts. A request is counted at most once: as a query or an explanation that succeeded, as a plan that
was refused, or as a failure; and it is counted exactly if it is a plan.

Requests can be at work at the same time. Nothing that a request comes to depends on what has been counted, so one
request is four steps: it arrives, its work is done, it is counted, and its caller gets the response; between its steps
any others can be taken. Whatever their order, what has been counted is the sum over the requests that were counted.
-/
set_option autoImplicit false

namespace QueryGate.Planner

open Json Plan Statement Compile

/-! ## Requests and responses -/

/-- A request to a planner. -/
inductive Request where
  /-- The text of a reply is answered. -/
  | text (words : String)
  /-- A reply is answered. -/
  | reply (reply : Reply)
  /-- The plan in a value is explained. -/
  | plan (plan : Value)

/-- What a request comes to. -/
inductive Response where
  | answer (outcome : Except RequestError Answer)
  | explanation (outcome : Except RequestError Explanation)

/-- Serves a request. -/
def serve (p : Planner) (db : Guard.Database) (request : Request) (s : State) : Response × State :=
  match request with
  | .text words => (p.answer db words s).map .answer id
  | .reply r => (p.answerReply db r s).map .answer id
  | .plan v => (p.explain db v s).map .explanation id

/-- What the plan of a reply compiles to, if the reply is one. -/
def compiledReply? (catalog : Catalog) : Reply → Option (Except PlanError (ValidPlan × Query))
  | .query raw => some (compileRaw catalog raw)
  | _ => none

namespace Request

/-- What the plan of a request compiles to, if there is one. -/
def compiled? (catalog : Catalog) : Request → Option (Except PlanError (ValidPlan × Query))
  | text words => compiledReply? catalog (.ofText words)
  | reply r => compiledReply? catalog r
  | plan v => some (compileValue catalog v)

/-- Whether a request is a plan. -/
def isPlan (catalog : Catalog) (request : Request) : Bool := (request.compiled? catalog).isSome

/-- Whether a request is a plan that does not compile. -/
def isRefused (catalog : Catalog) (request : Request) : Bool :=
  match request.compiled? catalog with
  | some (.error _) => true
  | _ => false

theorem isPlan_eq_true {catalog : Catalog} {request : Request} {result : Except PlanError (ValidPlan × Query)}
    (h : request.compiled? catalog = some result) : request.isPlan catalog = true := by
  rw [isPlan, h, Option.isSome_some]

end Request

namespace Response

/-- Whether a response has rows. -/
def isData : Response → Bool
  | answer (.ok (.data ..)) => true
  | _ => false

/-- Whether a response is an explanation. -/
def isExplanation : Response → Bool
  | explanation (.ok _) => true
  | _ => false

/-- Whether a response is that the database failed. -/
def isFailure : Response → Bool
  | answer (.error error) => error.failure?.isSome
  | explanation (.error error) => error.failure?.isSome
  | _ => false

/-- Whether a response is in the planner's own words, or a question back. -/
def isWords : Response → Bool
  | answer (.ok (.chat _)) => true
  | answer (.ok (.clarification _)) => true
  | _ => false

end Response

/-! ## One request -/

namespace Counters

/-- What is counted in two parts. -/
def add (c d : Counters) : Counters :=
  ⟨c.queries + d.queries, c.explains + d.explains, c.rejected + d.rejected, c.failures + d.failures⟩

@[simp] theorem add_zero (c : Counters) : c.add .zero = c := rfl

end Counters

/-- A request is served in the same way whatever has been counted, and what is counted for it is added. -/
theorem serve_eq (p : Planner) (db : Guard.Database) (request : Request) (s : State) :
    p.serve db request s =
      let served := p.serve db request ⟨.zero, s.link⟩
      (served.1, ⟨s.counters.add served.2.counters, served.2.link⟩) := by
  -- a text is served as the reply that is read from it
  have hreply (reply : Reply) : p.serve db (.reply reply) s =
      let served := p.serve db (.reply reply) ⟨.zero, s.link⟩
      (served.1, ⟨s.counters.add served.2.counters, served.2.link⟩) := by
    cases reply with
    | message text => rfl
    | unclear => rfl
    | query raw =>
        simp only [serve, answerReply]
        cases hcompile : compileRaw p.catalog raw with
        | error reason => rfl
        | ok compiled =>
            simp only [run]
            cases hrun : (Guard.execute db p.settings.timeout compiled.2).onLink s.link with
            | mk outcome link => cases outcome <;> rfl
  cases request with
  | text words => exact hreply (.ofText words)
  | reply r => exact hreply r
  | plan v =>
      simp only [serve, explain]
      cases hcompile : compileValue p.catalog v with
      | error reason => rfl
      | ok compiled =>
          cases hrun : (Guard.explain db p.settings.timeout compiled.2).onLink s.link with
          | mk outcome link =>
              simp only [hrun]
              cases outcome <;> rfl

/-- What is counted for a request and its response: each counter goes up by one at most, and all of them together by one
for a plan and not at all for another request. -/
structure IsTally (catalog : Catalog) (c : Counters) (request : Request) (response : Response) : Prop where
  queries : c.queries = response.isData.toNat
  explains : c.explains = response.isExplanation.toNat
  rejected : c.rejected = (request.isRefused catalog).toNat
  failures : c.failures = response.isFailure.toNat
  total : c.queries + c.explains + c.rejected + c.failures = (request.isPlan catalog).toNat

/-- The courses in which a request is served by a planner that has counted nothing. -/
inductive ServeCourse (p : Planner) (db : Guard.Database) (link : Guard.Link) (request : Request) :
    Response × State → Prop where
  | unplanned (no_plan : request.compiled? p.catalog = none) {response : Response} (words : response.isWords = true) :
    ServeCourse p db link request (response, ⟨.zero, link⟩)
  | refused {reason : PlanError} (no_statement : request.compiled? p.catalog = some (.error reason))
    {response : Response}
    (response_eq : response = .answer (.ok p.askAgain) ∨ response = .explanation (.error (.invalid reason))) :
    ServeCourse p db link request (response, State.reject ⟨.zero, link⟩)
  | queried {plan : ValidPlan} {query : Query} (compiled : request.compiled? p.catalog = some (.ok (plan, query)))
    {outcome : Except Guard.Failure Guard.Rows} {after : Guard.Link}
    (ran : RanGuarded p db (Guard.rowCalls db query.statement) link after outcome) :
    ServeCourse p db link request (.answer (answerOf plan query outcome), ⟨Counters.zero.afterAnswer outcome, after⟩)
  | explained {plan : ValidPlan} {query : Query} (compiled : request.compiled? p.catalog = some (.ok (plan, query)))
    {outcome : Except Guard.Failure (List String)} {after : Guard.Link}
    (ran : RanGuarded p db (explainCalls query) link after outcome) :
    ServeCourse p db link request
      (.explanation (explanationOf query outcome), ⟨Counters.zero.afterExplanation outcome, after⟩)

section Requests

variable {p : Planner} {db : Guard.Database} {link : Guard.Link} {request : Request} {served : Response × State}

/-- Every request is served in one of the courses. -/
theorem serveCourse_serve (p : Planner) (db : Guard.Database) (request : Request) (link : Guard.Link) :
    ServeCourse p db link request (p.serve db request ⟨.zero, link⟩) := by
  have hreply (reply : Reply) (hcompiled : request.compiled? p.catalog = compiledReply? p.catalog reply) :
      ServeCourse p db link request ((p.answerReply db reply ⟨.zero, link⟩).map .answer id) := by
    have hcourse := answerCourse_answerReply p db reply ⟨.zero, link⟩
    generalize p.answerReply db reply ⟨.zero, link⟩ = result at hcourse ⊢
    cases hcourse with
    | chat text => exact .unplanned hcompiled rfl
    | unclear => exact .unplanned hcompiled rfl
    | refused no_statement =>
        rw [compiledReply?, no_statement] at hcompiled
        exact .refused hcompiled (.inl rfl)
    | ran compiled executed =>
        rw [compiledReply?, compiled] at hcompiled
        exact .queried hcompiled (ranGuarded_execute p db _ executed)
  cases request with
  | text words => exact hreply (.ofText words) rfl
  | reply r => exact hreply r rfl
  | plan v =>
      have hcompiled : (Request.plan v).compiled? p.catalog = some (compileValue p.catalog v) := rfl
      have hcourse := explainCourse_explain p db v ⟨.zero, link⟩
      unfold serve
      simp only
      generalize p.explain db v ⟨.zero, link⟩ = result at hcourse ⊢
      cases hcourse with
      | refused no_statement =>
          rw [no_statement] at hcompiled
          exact .refused hcompiled (.inr rfl)
      | ran compiled executed =>
          rw [compiled] at hcompiled
          exact .explained hcompiled (ranGuarded_explain p db _ executed)

/-- A response in words is no success and no failure of the database. -/
theorem Response.eq_false_of_isWords {response : Response} (h : response.isWords = true) :
    response.isData = false ∧ response.isExplanation = false ∧ response.isFailure = false := by
  rcases response with (_ | _ | _ | _) | _
  · cases h
  · exact ⟨rfl, rfl, rfl⟩
  · exact ⟨rfl, rfl, rfl⟩
  · cases h
  · cases h

/-- What is counted in a course is the tally of the request and the response. -/
theorem ServeCourse.isTally (h : ServeCourse p db link request served) :
    IsTally p.catalog served.2.counters request served.1 := by
  cases h with
  | unplanned no_plan words =>
      obtain ⟨hdata, hexplanation, hfailure⟩ := Response.eq_false_of_isWords words
      have hplan : request.isPlan p.catalog = false := by rw [Request.isPlan, no_plan, Option.isSome_none]
      have hrefused : request.isRefused p.catalog = false := by rw [Request.isRefused, no_plan]
      exact ⟨congrArg Bool.toNat hdata.symm, congrArg Bool.toNat hexplanation.symm, congrArg Bool.toNat hrefused.symm,
        congrArg Bool.toNat hfailure.symm, congrArg Bool.toNat hplan.symm⟩
  | refused no_statement response_eq =>
      have hplan := Request.isPlan_eq_true no_statement
      have hrefused : request.isRefused p.catalog = true := by rw [Request.isRefused, no_statement]
      rcases response_eq with rfl | rfl <;>
        exact ⟨rfl, rfl, congrArg Bool.toNat hrefused.symm, rfl, congrArg Bool.toNat hplan.symm⟩
  | @queried _ _ compiled outcome =>
      have hplan := Request.isPlan_eq_true compiled
      have hrefused : request.isRefused p.catalog = false := by rw [Request.isRefused, compiled]
      cases outcome <;> exact ⟨rfl, rfl, congrArg Bool.toNat hrefused.symm, rfl, congrArg Bool.toNat hplan.symm⟩
  | @explained _ _ compiled outcome =>
      have hplan := Request.isPlan_eq_true compiled
      have hrefused : request.isRefused p.catalog = false := by rw [Request.isRefused, compiled]
      cases outcome <;> exact ⟨rfl, rfl, congrArg Bool.toNat hrefused.symm, rfl, congrArg Bool.toNat hplan.symm⟩

/-- A request that is no plan is answered in words. It changes nothing. -/
theorem ServeCourse.unchanged (h : ServeCourse p db link request served) (hplan : request.isPlan p.catalog = false) :
    served.1.isWords = true ∧ served.2 = ⟨.zero, link⟩ := by
  have hno {result : Except PlanError (ValidPlan × Query)} : request.compiled? p.catalog ≠ some result := by
    intro hcompiled
    rw [Request.isPlan_eq_true hcompiled] at hplan
    cases hplan
  cases h with
  | unplanned _ words => exact ⟨words, rfl⟩
  | refused no_statement _ => exact absurd no_statement hno
  | queried compiled _ => exact absurd compiled hno
  | explained compiled _ => exact absurd compiled hno

/-- A request whose plan compiles fails exactly if a step of its session does. -/
theorem ServeCourse.isFailure_iff (h : ServeCourse p db link request served) {plan : ValidPlan} {query : Query}
    (hcompiled : request.compiled? p.catalog = some (.ok (plan, query))) :
    ∃ events, Guard.Leads db link events served.2.link
      ∧ (served.1.isFailure = true ↔ ∃ e ∈ events, e.failure ≠ none) := by
  cases h with
  | unplanned no_plan _ =>
      rw [no_plan] at hcompiled
      cases hcompiled
  | refused no_statement _ =>
      rw [no_statement] at hcompiled
      cases hcompiled
  | @queried _ _ _ outcome _ ran =>
      obtain ⟨events, hleads, -, hfails⟩ := ran
      refine ⟨events, hleads, ?_⟩
      rw [← hfails]
      cases outcome with
      | ok rows => simp [answerOf, Response.isFailure]
      | error failure => simp [answerOf, Response.isFailure, RequestError.failure?]
  | @explained _ _ _ outcome _ ran =>
      obtain ⟨events, hleads, -, hfails⟩ := ran
      refine ⟨events, hleads, ?_⟩
      rw [← hfails]
      cases outcome with
      | ok lines => simp [explanationOf, Response.isFailure]
      | error failure => simp [explanationOf, Response.isFailure, RequestError.failure?]

end Requests

/-! ## Many requests -/

/-- The counters agree with the requests that were counted and their responses. -/
structure Conserved (catalog : Catalog) (c : Counters) (done : List (Request × Response)) : Prop where
  queries : c.queries = done.countP fun d => d.2.isData
  explains : c.explains = done.countP fun d => d.2.isExplanation
  rejected : c.rejected = done.countP fun d => d.1.isRefused catalog
  failures : c.failures = done.countP fun d => d.2.isFailure
  total : c.queries + c.explains + c.rejected + c.failures = done.countP fun d => d.1.isPlan catalog

namespace Conserved

variable {catalog : Catalog} {c d : Counters} {request : Request} {response : Response}
  {done other : List (Request × Response)}

theorem nil : Conserved catalog .zero [] := ⟨rfl, rfl, rfl, rfl, rfl⟩

/-- One more request is counted by its tally. -/
theorem cons (h : Conserved catalog c done) (ht : IsTally catalog d request response) :
    Conserved catalog (c.add d) ((request, response) :: done) := by
  -- each counter counts by a property of its own, so one equation serves all five
  have hstep (f : Request × Response → Bool) :
      ((request, response) :: done).countP f = done.countP f + (f (request, response)).toNat := by
    rw [List.countP_cons]
    cases f (request, response) <;> rfl
  have htotal := ht.total
  have hsum := h.total
  refine ⟨?_, ?_, ?_, ?_, ?_⟩
  · rw [hstep, ← h.queries, ← ht.queries, Counters.add]
  · rw [hstep, ← h.explains, ← ht.explains, Counters.add]
  · rw [hstep, ← h.rejected, ← ht.rejected, Counters.add]
  · rw [hstep, ← h.failures, ← ht.failures, Counters.add]
  · rw [hstep, ← hsum, ← htotal]
    simp only [Counters.add]
    omega

/-- The order of the requests does not matter. -/
theorem perm (h : Conserved catalog c done) (hperm : done.Perm other) : Conserved catalog c other where
  queries := h.queries.trans (hperm.countP_eq _)
  explains := h.explains.trans (hperm.countP_eq _)
  rejected := h.rejected.trans (hperm.countP_eq _)
  failures := h.failures.trans (hperm.countP_eq _)
  total := h.total.trans (hperm.countP_eq _)

end Conserved

/-- A planner with requests at work. -/
structure Service where
  counters : Counters
  /-- All requests so far. -/
  arrived : List Request
  /-- Requests whose work has not been done. -/
  waiting : List Request
  /-- Requests whose work has been done, what they came to, and what is to be counted for them. -/
  settled : List (Request × Response × Counters)
  /-- Requests that have been counted and whose callers wait. -/
  counted : List (Request × Response)
  /-- Requests whose callers have their responses. -/
  finished : List (Request × Response)

namespace Service

/-- A planner that has had no requests. -/
def initial : Service := ⟨.zero, [], [], [], [], []⟩

/-- No request is at work. -/
def IsQuiet (σ : Service) : Prop := σ.waiting = [] ∧ σ.settled = [] ∧ σ.counted = []

/-- The requests that have been counted. -/
def done (σ : Service) : List (Request × Response) := σ.counted ++ σ.finished

/-- A step of a planner takes one of its requests one step further. The work of a request is done on any link, and the
database behaves in any way. -/
inductive Step (p : Planner) : Service → Service → Prop where
  | arrive (σ : Service) (request : Request) :
    Step p σ { σ with arrived := request :: σ.arrived, waiting := request :: σ.waiting }
  | work {σ : Service} {before after : List Request} {request : Request}
    (is_waiting : σ.waiting = before ++ request :: after) (db : Guard.Database) (link : Guard.Link) :
    Step p σ
      { σ with
        waiting := before ++ after
        settled := (request, (p.serve db request ⟨.zero, link⟩).1, (p.serve db request ⟨.zero, link⟩).2.counters)
          :: σ.settled }
  | count {σ : Service} {before after : List (Request × Response × Counters)} {request : Request}
    {response : Response} {tally : Counters} (is_settled : σ.settled = before ++ (request, response, tally) :: after) :
    Step p σ
      { σ with
        counters := σ.counters.add tally
        settled := before ++ after
        counted := (request, response) :: σ.counted }
  | reply {σ : Service} {before after : List (Request × Response)} {d : Request × Response}
    (is_counted : σ.counted = before ++ d :: after) :
    Step p σ { σ with counted := before ++ after, finished := d :: σ.finished }

/-- A run of a planner from its start. -/
def Reachable (p : Planner) (σ : Service) : Prop := Relation.ReflTransGen (Step p) initial σ

/-- What every step keeps. -/
structure Keeps (p : Planner) (σ : Service) : Prop where
  conserved : Conserved p.catalog σ.counters σ.done
  /-- What is still to be counted is the tally of what the planner did. -/
  tallied : ∀ w ∈ σ.settled, IsTally p.catalog w.2.2 w.1 w.2.1
  /-- No request is lost or made up. -/
  accounted : σ.arrived.Perm (σ.waiting ++ (σ.settled.map Prod.fst ++ σ.done.map Prod.fst))

theorem keeps_initial (p : Planner) : Keeps p initial := ⟨.nil, by simp [initial], .nil⟩

/-- One list after another, with an element of the first moved to the front of the second. -/
theorem perm_moved {α : Type} (before after rest : List α) (a : α) :
    ((before ++ a :: after) ++ rest).Perm ((before ++ after) ++ a :: rest) := by
  rw [List.append_assoc, List.cons_append, List.append_assoc]
  refine List.perm_middle.trans ?_
  rw [← List.append_assoc, ← List.append_assoc]
  exact List.perm_middle.symm

/-- A step takes one request further and leaves the others as they are. -/
theorem Step.keeps {p : Planner} {σ τ : Service} (hstep : Step p σ τ) (h : Keeps p σ) : Keeps p τ := by
  obtain ⟨hconserved, htallied, haccounted⟩ := h
  cases hstep with
  | arrive request => exact ⟨hconserved, htallied, haccounted.cons request⟩
  | @work before after request is_waiting db link =>
      rw [is_waiting] at haccounted
      exact ⟨hconserved, List.forall_mem_cons.2 ⟨(serveCourse_serve p db request link).isTally, htallied⟩,
        haccounted.trans (perm_moved before after _ request)⟩
  | @count before after request response tally is_settled =>
      -- the only step that counts: what it adds is the tally that the work left behind
      rw [is_settled] at htallied haccounted
      rw [List.forall_mem_append, List.forall_mem_cons] at htallied
      obtain ⟨hbefore, htally, hafter⟩ := htallied
      refine ⟨hconserved.cons htally, List.forall_mem_append.2 ⟨hbefore, hafter⟩, haccounted.trans ?_⟩
      simp only [List.map_append, List.map_cons]
      exact (perm_moved _ _ _ request).append_left σ.waiting
  | @reply before after d is_counted =>
      -- the request stays among those that were counted, at another place
      have hdone : σ.done.Perm ((before ++ after) ++ d :: σ.finished) := by
        rw [done, is_counted]
        exact perm_moved before after σ.finished d
      exact ⟨hconserved.perm hdone, htallied,
        haccounted.trans (((hdone.map Prod.fst).append_left _).append_left _)⟩

/-- What every step keeps holds throughout every run. -/
theorem Reachable.keeps {p : Planner} {σ : Service} (h : Reachable p σ) : Keeps p σ := by
  induction h with
  | refl => exact keeps_initial p
  | tail _ hstep ih => exact hstep.keeps ih

/-- On a planner at rest a request that is served at once is a run of four steps. -/
theorem Reachable.serve {p : Planner} {σ : Service} (h : Reachable p σ) (hquiet : σ.IsQuiet) (db : Guard.Database)
    (request : Request) (link : Guard.Link) :
    Reachable p
      { σ with
        counters := (p.serve db request ⟨σ.counters, link⟩).2.counters
        arrived := request :: σ.arrived
        finished := (request, (p.serve db request ⟨σ.counters, link⟩).1) :: σ.finished } := by
  obtain ⟨counters, arrived, waiting, settled, counted, finished⟩ := σ
  obtain ⟨rfl, rfl, rfl⟩ := hquiet
  -- the work is done as if nothing had been counted, and what it counts is added later
  rw [serve_eq p db request ⟨counters, link⟩]
  have harrive := h.tail (.arrive _ request)
  have hwork := harrive.tail (@Step.work p _ [] [] request rfl db link)
  have hcount := hwork.tail (@Step.count p _ [] [] _ _ _ rfl)
  exact hcount.tail (@Step.reply p _ [] [] _ rfl)

end Service

/-- The state of a planner before a database that behaves in some way. -/
def State.facing (s : State) (db : Guard.Database) : State := { s with link.faults := db.faults }

/-- Serves requests one after the other, each before a database of its own. -/
def serveAll (p : Planner) : List (Guard.Database × Request) → State → List (Request × Response) × State
  | [], s => ([], s)
  | (db, request) :: rest, s =>
    let (response, after) := p.serve db request (s.facing db)
    let (done, last) := serveAll p rest after
    ((request, response) :: done, last)

/-- Requests that are served one after the other are a run. -/
theorem exists_reachable_serveAll {p : Planner} (requests : List (Guard.Database × Request)) :
    ∀ {σ : Service} (s : State), Service.Reachable p σ → σ.IsQuiet → σ.counters = s.counters →
      ∃ τ, Service.Reachable p τ ∧ τ.IsQuiet ∧ τ.counters = (p.serveAll requests s).2.counters
        ∧ τ.finished = (p.serveAll requests s).1.reverse ++ σ.finished := by
  -- on the requests, for any planner at rest: after each request it is at rest again
  induction requests with
  | nil => exact fun {σ} s h hquiet hcounters => ⟨σ, h, hquiet, hcounters, rfl⟩
  | cons r rest ih =>
      obtain ⟨db, request⟩ := r
      intro σ s h hquiet hcounters
      have hserved := h.serve hquiet db request (s.facing db).link
      rw [hcounters] at hserved
      obtain ⟨τ, hτ, hrest, hlast, hdone⟩ := ih (p.serve db request (s.facing db)).2 hserved hquiet rfl
      refine ⟨τ, hτ, hrest, hlast, hdone.trans ?_⟩
      simp only [serveAll, List.reverse_cons, List.append_assoc, List.singleton_append]
      rfl

/-- The responses are to the requests, in their order. -/
theorem map_fst_serveAll (p : Planner) (requests : List (Guard.Database × Request)) (s : State) :
    (p.serveAll requests s).1.map Prod.fst = requests.map Prod.snd := by
  induction requests generalizing s with
  | nil => rfl
  | cons r rest ih => exact congrArg (List.cons r.2) (ih _)

/-- In every run of a planner, with any requests at work at the same time and any behaviour of the database, the
counters agree with the requests that were counted and their responses; once no request is at work these are all
requests. So it is in particular if they are served one after the other. A request that is no plan changes nothing, and
one whose plan compiles is counted as a failure exactly if a step of its session fails, be it the connection, a setting
of the guard, a statement or the commit. -/
theorem conserved_of_reachable (p : Planner) :
    (∀ σ, Service.Reachable p σ →
      Conserved p.catalog σ.counters σ.done
        ∧ (σ.IsQuiet → Conserved p.catalog σ.counters σ.finished ∧ σ.arrived.Perm (σ.finished.map Prod.fst)))
      ∧ (∀ requests s, s.counters = .zero →
        Conserved p.catalog (p.serveAll requests s).2.counters (p.serveAll requests s).1
          ∧ (p.serveAll requests s).1.map Prod.fst = requests.map Prod.snd)
      ∧ (∀ db request s, request.isPlan p.catalog = false →
        (p.serve db request s).1.isWords = true ∧ (p.serve db request s).2 = s)
      ∧ ∀ db request s plan query, request.compiled? p.catalog = some (.ok (plan, query)) →
        ∃ events, Guard.Leads db s.link events (p.serve db request s).2.link
          ∧ ((p.serve db request s).1.isFailure = true ↔ ∃ e ∈ events, e.failure ≠ none) := by
  refine ⟨fun σ h => ⟨h.keeps.conserved, ?_⟩, fun requests s hzero => ⟨?_, map_fst_serveAll p requests s⟩,
    fun db request s hplan => ?_, fun db request s plan query hcompiled => ?_⟩
  · rintro ⟨hwaiting, hsettled, hcounted⟩
    have hdone : σ.done = σ.finished := by rw [Service.done, hcounted, List.nil_append]
    obtain ⟨hconserved, -, haccounted⟩ := h.keeps
    rw [hwaiting, hsettled, hdone] at haccounted
    exact ⟨hdone ▸ hconserved, haccounted⟩
  · obtain ⟨τ, hτ, ⟨-, -, hcounted⟩, hlast, hdone⟩ :=
      exists_reachable_serveAll requests s (.refl : Service.Reachable p .initial) ⟨rfl, rfl, rfl⟩ hzero.symm
    have hconserved := hτ.keeps.conserved
    rw [Service.done, hcounted, hdone, hlast] at hconserved
    refine hconserved.perm ?_
    rw [List.nil_append, Service.initial, List.append_nil]
    exact List.reverse_perm _
  · obtain ⟨hwords, hunchanged⟩ := (serveCourse_serve p db request s.link).unchanged hplan
    rw [serve_eq]
    refine ⟨hwords, ?_⟩
    simp only [hunchanged, Counters.add_zero]
  · obtain ⟨events, hleads, hfails⟩ := (serveCourse_serve p db request s.link).isFailure_iff hcompiled
    rw [serve_eq]
    exact ⟨events, hleads, hfails⟩

/-- All books are asked for. -/
def booksQuestion : Request := .reply (.query (readPlan booksPlan))

/-- It is asked how the database would find all books. -/
def booksExplanation : Request := .plan booksPlan

/-- It is asked how the database would find papers. -/
def papersExplanation : Request := .plan papersPlan

/-- A link whose next commit fails. -/
def uncommittingLink : Guard.Link := freshLink .standard [(.commit, "could not serialize")]

/-- Two requests for books and one for papers at work at the same time, the commit of the first of which fails. -/
theorem exists_reachable_library :
    ∃ σ, Service.Reachable libraryPlanner σ ∧ σ.IsQuiet ∧ σ.counters = ⟨0, 1, 1, 1⟩
      ∧ σ.arrived = [papersExplanation, booksExplanation, booksQuestion] := by
  have h : Service.Reachable libraryPlanner .initial := .refl
  have harrived := ((h.tail (.arrive _ booksQuestion)).tail (.arrive _ booksExplanation)).tail
    (.arrive _ papersExplanation)
  have hsettled := (harrived.tail
    (@Service.Step.work _ _ [papersExplanation] [booksQuestion] _ rfl readyDatabase freshState.link)).tail
    (@Service.Step.work _ _ [papersExplanation] [] _ rfl readyDatabase uncommittingLink)
  have hfirst := (hsettled.tail (@Service.Step.count _ _ [] _ _ _ _ rfl)).tail
    (@Service.Step.work _ _ [] [] _ rfl readyDatabase freshState.link)
  have hcounted := (hfirst.tail (@Service.Step.count _ _ [] _ _ _ _ rfl)).tail
    (@Service.Step.count _ _ [] [] _ _ _ rfl)
  have hfinished := ((hcounted.tail (@Service.Step.reply _ _ [] _ _ rfl)).tail
    (@Service.Step.reply _ _ [] _ _ rfl)).tail (@Service.Step.reply _ _ [] [] _ rfl)
  exact ⟨_, hfinished, ⟨rfl, rfl, rfl⟩, rfl, rfl⟩

/-- A question for books, and then one how papers would be found. -/
def booksThenPapers : List (Guard.Database × Request) :=
  [(readyDatabase, booksQuestion), (readyDatabase, papersExplanation)]

/-- Of the requests at work at the same time one is counted as an explanation, one as refused and one as a failure.
Requests one after the other are counted by their responses too. A reply that is unclear changes nothing, and of a
question whose commit fails there is a step that fails. -/
theorem conserved_library :
    (∃ σ : Service, σ.counters = ⟨0, 1, 1, 1⟩ ∧ Conserved libraryPlanner.catalog σ.counters σ.finished
        ∧ σ.arrived = [papersExplanation, booksExplanation, booksQuestion])
      ∧ Conserved libraryPlanner.catalog (libraryPlanner.serveAll booksThenPapers freshState).2.counters
          (libraryPlanner.serveAll booksThenPapers freshState).1
      ∧ (libraryPlanner.serve readyDatabase (.reply .unclear) freshState).2 = freshState
      ∧ ∃ events, Guard.Leads readyDatabase uncommittingLink events
            (libraryPlanner.serve readyDatabase booksQuestion ⟨.zero, uncommittingLink⟩).2.link
          ∧ ∃ e ∈ events, e.failure ≠ none := by
  obtain ⟨hruns, hall, hwords, hfails⟩ := conserved_of_reachable libraryPlanner
  refine ⟨?_, (hall booksThenPapers freshState rfl).1, (hwords readyDatabase (.reply .unclear) freshState rfl).2, ?_⟩
  · obtain ⟨σ, h, hquiet, hcounters, harrived⟩ := exists_reachable_library
    exact ⟨σ, hcounters, ((hruns σ h).2 hquiet).1, harrived⟩
  · have hcompiled : ∃ plan query, booksQuestion.compiled? libraryPlanner.catalog = some (.ok (plan, query)) :=
      ⟨_, _, rfl⟩
    obtain ⟨plan, query, hcompiled⟩ := hcompiled
    obtain ⟨events, hleads, hfailure⟩ :=
      hfails readyDatabase booksQuestion ⟨.zero, uncommittingLink⟩ plan query hcompiled
    exact ⟨events, hleads, hfailure.1 rfl⟩

end QueryGate.Planner
