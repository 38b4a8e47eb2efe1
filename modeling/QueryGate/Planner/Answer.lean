import QueryGate.Compile.Query
import QueryGate.Guard.Session
/-!
What a caller gets: the answer to a reply of the planner, the explanation of a plan, and the reasons for which there is
neither.
-/
set_option autoImplicit false

namespace QueryGate.Planner

open Json Plan Statement

/-- Asks the caller to rephrase and offers the resources that can be looked at. -/
def clarification : List String → String
  | [] => "The question is unclear."
  | [only] => "The question is unclear. Would you like to look at " ++ only ++ "?"
  | first :: second :: rest =>
    let names := first :: second :: rest
    "The question is unclear. Would you like to look at " ++ String.intercalate ", " names.dropLast ++ " or "
      ++ names.getLast (by simp [names]) ++ "?"

/-- The answer to a reply. -/
inductive Answer where
  /-- The planner's own words. -/
  | chat (message : String)
  /-- The question should be put in other words. -/
  | clarification (message : String)
  /-- The rows of a plan. -/
  | data (plan : ValidPlan) (statement : Statement) (rows : Guard.Rows)

/-- The document of an answer. -/
def Answer.toTree : Answer → Tree
  | chat message => .object [("mode", .string "chat"), ("message", .string message)]
  | clarification message => .object [("mode", .string "clarification"), ("message", .string message)]
  | data plan statement rows =>
    .object [("mode", .string "data"), ("plan", plan.toTree), ("sql", Compile.statementTree statement),
      ("columnNames", .list (rows.columns.map .string)),
      ("rowCount", .number (.natural rows.items.length)),
      ("rows", .list (rows.items.map Value.toTree))]

/-- The explanation of a plan: its statement laid out for people, and what the database intends to do. -/
structure Explanation where
  statement : String
  executionPlan : String
deriving DecidableEq, Repr

/-- The parts of an explanation under their titles, in the order of the titles. -/
def Explanation.parts (e : Explanation) : List (String × String) :=
  [("Execution Plan", e.executionPlan), ("SQL Query", e.statement)]

/-- Why a request has no answer. -/
inductive RequestError where
  | invalid (reason : PlanError)
  | notExecuted (failure : Guard.Failure)
  | notExplained (failure : Guard.Failure)

namespace RequestError

/-- What stands before the failure of the database. -/
def databaseWords : String := "database error: "

/-- The wording of why a request has no answer. -/
def message : RequestError → String
  | invalid reason => "invalid request: " ++ reason.message
  | notExecuted failure => "failed to execute query: " ++ databaseWords ++ failure.message
  | notExplained failure => "failed to explain query: " ++ databaseWords ++ failure.message

/-- The failure of the database behind an error. -/
def failure? : RequestError → Option Guard.Failure
  | invalid _ => none
  | notExecuted failure => some failure
  | notExplained failure => some failure

end RequestError

/-- Why the database is not healthy. -/
inductive HealthError where
  | unreachable (failure : Guard.Failure)
  | unexpected (number : Int)
deriving DecidableEq, Repr

/-- The wording of why the database is not healthy. -/
def HealthError.message : HealthError → String
  | unreachable failure => "unable to reach the database: " ++ failure.message
  | unexpected number => "unexpected health check result: " ++ toString number

end QueryGate.Planner
