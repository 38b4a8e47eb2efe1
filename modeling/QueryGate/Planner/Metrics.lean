import QueryGate.Number.Layout
import QueryGate.Settings.Pool
/-!
Metrics: what a planner counts, the state of its pool, and the text in which both are published.
-/
set_option autoImplicit false

namespace QueryGate.Planner

open Settings

/-- What a planner has done so far. -/
structure Counters where
  /-- Queries that succeeded. -/
  queries : Nat
  /-- Explanations that succeeded. -/
  explains : Nat
  /-- Plans that were refused before they reached the database. -/
  rejected : Nat
  /-- Requests that failed in the database. -/
  failures : Nat
deriving DecidableEq, Repr

/-- Nothing done yet. -/
def Counters.zero : Counters := ⟨0, 0, 0, 0⟩

/-- Counters only grow; gauges show a state. -/
inductive MetricKind where
  | counter
  | gauge
deriving DecidableEq, Repr

/-- The word for a kind of metrics. -/
def MetricKind.word : MetricKind → String
  | counter => "counter"
  | gauge => "gauge"

/-- A number that is published. -/
structure Metric where
  name : String
  help : String
  kind : MetricKind
  value : Nat
deriving DecidableEq, Repr

namespace Metric

/-- A metric of a planner. -/
def ofPlanner (name help : String) (kind : MetricKind) (value : Nat) : Metric :=
  ⟨"storefront_planner_" ++ name, help, kind, value⟩

/-- Numbers are published without an exponent, and whole ones without a fraction. -/
def layout : Number.Layout := ⟨none, false, "NaN", "inf"⟩

/-- The text of a metric: an explanation, its kind and its value. -/
def text (m : Metric) : String :=
  "# HELP " ++ m.name ++ " " ++ m.help ++ "\n"
    ++ "# TYPE " ++ m.name ++ " " ++ m.kind.word ++ "\n"
    ++ m.name ++ " " ++ layout.write (.ofNat m.value) ++ "\n"

end Metric

/-- A number of seconds, zero if there is no limit. -/
def secondsOrZero (limit : Option UInt64) : Nat := (limit.map UInt64.toNat).getD 0

/-- The metrics of a planner in the order of their names. A connection that is open is idle between requests. -/
def metrics (counters : Counters) (pool : PoolSettings) (isOpen : Bool) : List Metric :=
  let connections := if isOpen then 1 else 0
  [.ofPlanner "execution_failure_total" "Total statements that failed in the database." .counter counters.failures,
    .ofPlanner "explain_total" "Total successful explains." .counter counters.explains,
    .ofPlanner "pool_acquire_timeout"
      "Get the maximum amount of time to spend waiting for a connection, in seconds." .gauge pool.poolTimeout.toNat,
    .ofPlanner "pool_active"
      "The number of connections current active. This does not include idle connections." .gauge 0,
    .ofPlanner "pool_idle" "The number of connections active and idle (not in use)." .gauge connections,
    .ofPlanner "pool_idle_timeout"
      "Get the maximum idle duration for individual connections, in seconds." .gauge (secondsOrZero pool.idleTimeout),
    .ofPlanner "pool_max_connections"
      "The maximum number of connections that this pool should maintain." .gauge pool.maxConnections.toNat,
    .ofPlanner "pool_max_lifetime"
      "Get the maximum lifetime of individual connections, in seconds." .gauge
      (secondsOrZero pool.connectionLifetime),
    .ofPlanner "pool_min_connections"
      "The minimum number of connections that this pool should maintain." .gauge 0,
    .ofPlanner "pool_size"
      "The number of connections currently active. This includes idle connections." .gauge connections,
    .ofPlanner "query_total" "Total successful queries." .counter counters.queries,
    .ofPlanner "rejected_plan_total" "Total plans rejected before reaching the database." .counter
      counters.rejected]

/-- The text in which metrics are published. -/
def metricsText (ms : List Metric) : String := String.join (ms.map Metric.text)

/-! ## Registration -/

/-- The names of the metrics that are published already. -/
structure Registry where
  names : List String

namespace Registry

/-- Nothing is published. -/
def empty : Registry := ⟨[]⟩

/-- Publishes metrics; each name can be published once. -/
def register (r : Registry) (ms : List Metric) : Option Registry :=
  if ms.any fun m => m.name ∈ r.names then none else some ⟨ms.map Metric.name ++ r.names⟩

end Registry

end QueryGate.Planner
