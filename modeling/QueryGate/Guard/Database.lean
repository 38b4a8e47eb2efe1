import QueryGate.Guard.Binding
import QueryGate.Json.Fault
/-!
The database as its client sees it: the calls that it is given, the points at which it can fail, and what it replies.
How it behaves is data, so that a statement about every behaviour is a statement about all such data.
-/
set_option autoImplicit false

namespace QueryGate.Guard

/-- A point at which the database can fail. -/
inductive Point where
  | connect
  | begin
  | readOnly
  | timeout
  | prepare
  | rows
  | explain
  | commit
  | rollback
  | health
deriving DecidableEq, Repr

/-- A call to the database. -/
inductive Call where
  | begin
  /-- Makes the transaction read only. -/
  | readOnly
  /-- Bounds the statements of the transaction. -/
  | timeout (milliseconds : Nat)
  /-- Asks for the columns of a statement. -/
  | prepare (text : String)
  /-- Runs a statement for its rows. -/
  | rows (text : String) (parameters : List Bound)
  /-- Runs a statement for its execution plan. -/
  | explain (text : String) (parameters : List Bound)
  | health
  | commit
  | rollback
  /-- The connection's own call to leave a transaction that could not be begun or ended as asked. -/
  | abandon
deriving DecidableEq, Repr

namespace Call

/-- The point that a call reaches. -/
def point : Call → Point
  | begin => .begin
  | readOnly => .readOnly
  | timeout _ => .timeout
  | prepare _ => .prepare
  | rows .. => .rows
  | explain .. => .explain
  | health => .health
  | commit => .commit
  | rollback => .rollback
  | abandon => .rollback

/-- The text of a call. -/
def text : Call → String
  | begin => "BEGIN"
  | readOnly => "SET TRANSACTION READ ONLY"
  | timeout _ => "SELECT set_config('statement_timeout', $1, true)"
  | prepare text => text
  | rows text _ => text
  | explain text _ => text
  | health => "SELECT 1"
  | commit => "COMMIT"
  | rollback => "ROLLBACK"
  | abandon => "ROLLBACK"

/-- The parameters of a call. -/
def parameters : Call → List Bound
  | timeout milliseconds => [.text (some (toString milliseconds))]
  | rows _ parameters => parameters
  | explain _ parameters => parameters
  | _ => []

end Call

/-- What is wrong with a row. -/
inductive RowFault where
  | null
  | malformed (fault : Json.Fault)
deriving DecidableEq, Repr

/-- The wording of what is wrong with a row. -/
def RowFault.message : RowFault → String
  | null => "unexpected null; try decoding as an `Option`"
  | malformed fault => fault.message

/-- Why the database gave no usable reply. -/
inductive Failure where
  /-- The database refused, in its own words. -/
  | refused (message : String)
  /-- A row is not what was asked for. -/
  | unreadableRow (cause : RowFault)
  /-- There is no row where one was asked for. -/
  | noRow
deriving DecidableEq, Repr

namespace Failure

/-- The wording of a failure. -/
def message : Failure → String
  | refused message => "error returned from database: " ++ message
  | unreadableRow cause => "error occurred while decoding column 0: " ++ cause.message
  | noRow => "no rows returned by a query that expected to return at least one row"

/-- What a failure is due to, in words. -/
def cause? : Failure → Option String
  | refused message => some message
  | unreadableRow cause => some cause.message
  | noRow => none

end Failure

/-- How the database behaves. -/
structure Database where
  /-- The points that fail and what the database says there. Each entry is for one visit of its point, in this order;
  all other visits succeed. -/
  faults : List (Point × String)
  /-- The names of the columns of any statement. -/
  columns : List String
  /-- The rows of any statement; a missing text is null. -/
  rows : List (Option String)
  /-- The lines of any execution plan. -/
  planLines : List String
  /-- The number that the health statement returns, if it returns a row. -/
  health : Option Int

end QueryGate.Guard
