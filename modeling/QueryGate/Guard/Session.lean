import QueryGate.Guard.Columns
import QueryGate.Guard.Database
import QueryGate.Json.Value
import QueryGate.Json.Reader
import QueryGate.Statement.Render
/-!
Sessions with the database. A statement of a plan runs behind a guard: in a transaction of its own, which is read only
and bounds the time of its statements. The transaction is committed if all went well and rolled back otherwise. A
session is a function of the link to the database, which records every call, so that what the database sees is part of
the result.
-/
set_option autoImplicit false

namespace QueryGate.Guard

open Json Statement

/-- The link to a database: whether a connection is open, whether a connection outlasts the request that it was opened
for, the faults to come, and the calls so far. -/
structure Link where
  isOpen : Bool
  isLasting : Bool
  faults : List (Point × String)
  calls : List Call

/-- The first fault at a point, if there is one, and the faults that remain. -/
def takeFault (p : Point) : List (Point × String) → Option String × List (Point × String)
  | [] => (none, [])
  | (q, message) :: rest =>
    if q = p then (some message, rest)
    else
      let (found, others) := takeFault p rest
      (found, (q, message) :: others)

/-- A session, given by its outcome on a link and the link afterwards: it can fail, and what it did to the link
stays. -/
structure Session (α : Type) where
  onLink : Link → Except Failure α × Link

namespace Session

instance : Monad Session where
  pure a := ⟨fun link => (.ok a, link)⟩
  bind s f := ⟨fun link =>
    match s.onLink link with
    | (.ok a, link) => (f a).onLink link
    | (.error failure, link) => (.error failure, link)⟩

@[simp] theorem onLink_pure {α : Type} (a : α) (link : Link) : (pure a : Session α).onLink link = (.ok a, link) := rfl

theorem onLink_bind {α β : Type} (s : Session α) (f : α → Session β) (link : Link) :
    (s >>= f).onLink link =
      match s.onLink link with
      | (.ok a, link) => (f a).onLink link
      | (.error failure, link) => (.error failure, link) := rfl

/-- Ends in an outcome that is known. -/
def conclude {α : Type} (outcome : Except Failure α) : Session α := ⟨fun link => (outcome, link)⟩

/-- Visits a point, which fails if a fault is left for it. -/
def visit (p : Point) : Session Unit := ⟨fun link =>
  match takeFault p link.faults with
  | (none, rest) => (.ok (), { link with faults := rest })
  | (some message, rest) => (.error (.refused message), { link with faults := rest })⟩

/-- Gives the database a call, which is recorded whether it fails or not. -/
def send (c : Call) : Session Unit := ⟨fun link =>
  (visit c.point).onLink { link with calls := link.calls ++ [c] }⟩

/-- Opens a connection unless there is one that can still be used. -/
def acquire : Session Unit := ⟨fun link =>
  if link.isOpen ∧ link.isLasting then (.ok (), link)
  else
    match (visit .connect).onLink link with
    | (.ok _, link) => (.ok (), { link with isOpen := true })
    | (.error failure, link) => (.error failure, { link with isOpen := false })⟩

/-- The link after a request: a connection that does not last is closed. -/
def release (link : Link) : Link := { link with isOpen := link.isOpen && link.isLasting }

/-- Does some work on a connection. -/
def onConnection {α : Type} (work : Session α) : Session α := do
  acquire
  -- the connection is given back whether the work fails or not
  ⟨fun link => (work.onLink link).map id release⟩

/-- The connection leaves a transaction by itself; a connection that cannot is closed. -/
def abandon (link : Link) : Link :=
  match (send .abandon).onLink link with
  | (.ok _, link) => link
  | (.error _, link) => { link with isOpen := false }

/-- Gives the database a call that begins or ends a transaction. If it fails the connection leaves the transaction by
itself. -/
def sendBoundary (c : Call) : Session Unit := ⟨fun link =>
  match (send c).onLink link with
  | (.ok _, link) => (.ok (), link)
  | (.error failure, link) => (.error failure, abandon link)⟩

/-- What runs inside a transaction: first the two settings of the guard. -/
def configured {α : Type} (milliseconds : Nat) (work : Session α) : Session α := do
  send .readOnly
  send (.timeout milliseconds)
  work

/-- Ends a transaction: what succeeded is committed, what failed is rolled back. The failure of a rollback is not
reported: the failure that led to it is. -/
def finish {α : Type} (outcome : Except Failure α) : Session α :=
  match outcome with
  | .ok value => do
    sendBoundary .commit
    pure value
  | .error failure => ⟨fun link => (.error failure, ((sendBoundary .rollback).onLink link).2)⟩

/-- Runs some work in a transaction that is read only and bounded in time. -/
def guarded {α : Type} (milliseconds : Nat) (work : Session α) : Session α := onConnection do
  sendBoundary .begin
  -- a failure from here on must not skip the end of the transaction
  ⟨fun link =>
    let (outcome, link) := (configured milliseconds work).onLink link
    (finish outcome).onLink link⟩

end Session

/-! ## Rows -/

/-- The rows of a statement under the names of its columns. -/
structure Rows where
  columns : List String
  items : List Value

/-- A row as a value. -/
def readRow : Option String → Except Failure Value
  | none => .error (.unreadableRow .null)
  | some text => (Value.ofText text).mapError fun fault => .unreadableRow (.malformed fault)

/-- The rows of a statement, each as an object. The names of the columns come from preparing the statement, so they
are known even if there are no rows. -/
def fetchRows (db : Database) (s : Statement) : Session Rows := do
  Session.send (.prepare s.text)
  let columns := distinctColumns db.columns
  Session.send (.rows (rowsAsObjects s.text columns) (s.parameters.map Bound.ofValue))
  let items ← Session.conclude (db.rows.mapM readRow)
  pure ⟨columns, items⟩

/-- The lines of the execution plan that a statement asks for. -/
def fetchPlan (db : Database) (s : Statement) : Session (List String) := do
  Session.send (.explain s.text (s.parameters.map Bound.ofValue))
  pure db.planLines

/-! ## Requests -/

/-- Runs a query for its rows. -/
def execute (db : Database) (milliseconds : Nat) (q : Query) : Session Rows :=
  Session.guarded milliseconds (fetchRows db q.statement)

/-- Asks for the execution plan of a query. -/
def explain (db : Database) (milliseconds : Nat) (q : Query) : Session (List String) :=
  Session.guarded milliseconds (fetchPlan db q.explainStatement)

/-- The number that the health statement returns. -/
def health (db : Database) : Session Int := Session.onConnection do
  Session.send .health
  match db.health with
  | none => Session.conclude (.error .noRow)
  | some number => pure number

end QueryGate.Guard
