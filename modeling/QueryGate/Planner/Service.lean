import QueryGate.Contract.Describe
import QueryGate.Planner.Answer
import QueryGate.Planner.Metrics
import QueryGate.Settings.Address
import QueryGate.Settings.Runtime
import QueryGate.Statement.Layout
/-!
The planner in service: replies are answered, plans explained, and both counted. Its state is what it has counted and
its link to the database; every request is a function of that state.
-/
set_option autoImplicit false

namespace QueryGate

open Json Plan Statement Settings

/-- A planner: its configuration, and the catalog of its contract. -/
structure Planner where
  settings : Runtime
  catalog : Catalog

namespace Planner

/-- What changes while a planner is in service. -/
structure State where
  counters : Counters
  link : Guard.Link

/-! ## Going into service -/

/-- Why a planner cannot go into service. -/
inductive StartError where
  | badAddress (fault : AddressFault)
  | unreachable (failure : Guard.Failure)
  | metricsTaken
deriving DecidableEq, Repr

/-- The wording of why a planner cannot go into service. -/
def StartError.message : StartError → String
  | badAddress fault => "unable to initialize connection pool: error with configuration: " ++ fault.message
  | unreachable failure => "unable to initialize connection pool: " ++ failure.message
  | metricsTaken => "error initializing metrics: Duplicate metrics collector registration attempted"

/-- A link on which nothing has happened yet. -/
def freshLink (pool : PoolSettings) (faults : List (Guard.Point × String)) : Guard.Link :=
  ⟨false, pool.keepsConnections, faults, []⟩

/-- A pool on an address, its metrics published; connections are opened when they are needed. -/
def openPool (pool : PoolSettings) (address : String) (registry : Registry) :
    Except StartError (List Metric × Registry) := do
  (Address.check address).mapError StartError.badAddress
  let published := metrics .zero pool false
  match registry.register published with
  | some registry => .ok (published, registry)
  | none => .error .metricsTaken

/-- The planner of a configuration. -/
def ofSettings (settings : Runtime) : Planner := ⟨settings, .ofContract settings.contract⟩

/-- Puts a planner into service. Unless it is lazy it opens a connection at once. -/
def start (p : Planner) (isLazy : Bool) (faults : List (Guard.Point × String)) : Except StartError State := do
  let _ ← openPool p.settings.pool p.settings.address .empty
  let link := freshLink p.settings.pool faults
  if isLazy then .ok ⟨.zero, link⟩
  else
    match Guard.Session.acquire.onLink link with
    | (.ok _, link) => .ok ⟨.zero, link⟩
    | (.error failure, _) => .error (.unreachable failure)

/-! ## Requests -/

/-- What became of a request: it can fail, and what it did to the state stays. -/
abbrev Result (α : Type) : Type := Except RequestError α × State

/-- Asks the caller to rephrase. -/
def askAgain (p : Planner) : Answer := .clarification (clarification p.catalog.allowed)

/-- Runs a plan that has been compiled. -/
def run (p : Planner) (db : Guard.Database) (plan : ValidPlan) (query : Query) (s : State) : Result Answer :=
  match (Guard.execute db p.settings.timeout query).onLink s.link with
  | (.ok rows, link) =>
    (.ok (.data plan query.statement rows), ⟨{ s.counters with queries := s.counters.queries + 1 }, link⟩)
  | (.error failure, link) =>
    (.error (.notExecuted failure), ⟨{ s.counters with failures := s.counters.failures + 1 }, link⟩)

/-- The state after a plan has been refused. -/
def State.reject (s : State) : State := { s with counters.rejected := s.counters.rejected + 1 }

/-- Answers a reply. A plan that cannot be compiled leads to a question back, as does a reply that is unclear. -/
def answerReply (p : Planner) (db : Guard.Database) (reply : Reply) (s : State) : Result Answer :=
  match reply with
  | .message text => (.ok (.chat text), s)
  | .unclear => (.ok p.askAgain, s)
  | .query raw =>
    match Compile.compileRaw p.catalog raw with
    | .ok (plan, query) => p.run db plan query s
    -- a plan that leads to a question back is counted as rejected too
    | .error reason => (if reason.needsClarification then .ok p.askAgain else .error (.invalid reason), s.reject)

/-- Answers the text of a reply. -/
def answer (p : Planner) (db : Guard.Database) (text : String) (s : State) : Result Answer :=
  p.answerReply db (.ofText text) s

/-- Explains the plan in a value. -/
def explain (p : Planner) (db : Guard.Database) (v : Value) (s : State) : Result Explanation :=
  match Compile.compileValue p.catalog v with
  | .error reason => (.error (.invalid reason), s.reject)
  | .ok (_, query) =>
    match (Guard.explain db p.settings.timeout query).onLink s.link with
    | (.ok lines, link) =>
      (.ok ⟨Layout.layOut query.statement.text, String.intercalate "\n" lines⟩,
        ⟨{ s.counters with explains := s.counters.explains + 1 }, link⟩)
    | (.error failure, link) =>
      (.error (.notExplained failure), ⟨{ s.counters with failures := s.counters.failures + 1 }, link⟩)

/-- Checks that the database can be reached and runs a statement there. -/
def health (db : Guard.Database) (s : State) : Except HealthError Unit × State :=
  match (Guard.health db).onLink s.link with
  | (.ok number, link) => (if number = 1 then .ok () else .error (.unexpected number), { s with link })
  | (.error failure, link) => (.error (.unreachable failure), { s with link })

/-- The contract in words. -/
def describe (p : Planner) : String := Contract.describe p.settings.contract

/-- The metrics at this moment. -/
def metricsNow (p : Planner) (s : State) : String :=
  metricsText (metrics s.counters p.settings.pool s.link.isOpen)

end Planner

end QueryGate
