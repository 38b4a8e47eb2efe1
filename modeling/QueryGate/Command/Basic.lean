import QueryGate.Planner.Service
import QueryGate.Settings.Directory
/-!
The commands of the program, and the reasons for which a command can fail. The report of a failure names its causes
from the outermost to the innermost; several of them include the next one in their own words, so a report says some
things more than once.
-/
set_option autoImplicit false

namespace QueryGate.Command

open Files Json Plan Settings Planner

/-- Where a command takes its text from: a file, or the standard input. -/
inductive Source where
  | file (path : String)
  | input
deriving DecidableEq, Repr

/-- What the program is asked to do. -/
inductive Invocation where
  /-- Writes the initial configuration; one that is there is overwritten only by force. -/
  | setUp (force : Bool)
  /-- Prints the contract in words. -/
  | describe
  /-- Prints the statement of a plan. -/
  | compile (plan : Source)
  /-- Prints the answer to a reply of the planner. -/
  | query (reply : Source)
  /-- Prints the explanation of a plan. -/
  | explain (plan : Source)
  /-- Prints the schema of configurations. -/
  | schema
deriving DecidableEq, Repr

/-- Why a command failed. -/
inductive CommandError where
  | file (fault : FileFault)
  | alreadyThere (path : String)
  | notWritten (fault : FileFault)
  | configuration (error : ConfigurationError)
  | inconsistent (violations : List Contract.Violation)
  | unreadable (path : String) (fault : FileFault)
  | noJson (fault : Fault)
  | plan (error : PlanError)
  /-- The planner did not go into service: its configuration cannot be read, -/
  | startConfiguration (error : ConfigurationError)
  /-- or not be used, -/
  | startRuntime (error : RuntimeError)
  /-- or its database is not to be had. -/
  | start (error : StartError)
  | request (error : RequestError)

namespace CommandError

/-- The causes of a failed request behind its own words. -/
def requestCauses (e : RequestError) : List String :=
  match e.failure? with
  | none => []
  | some failure => (RequestError.databaseWords ++ failure.message) :: failure.message :: failure.cause?.toList

/-- The causes of a failure, from the outermost to the innermost. -/
def causes : CommandError → List String
  | file fault => [fault.message]
  | alreadyThere path => ["a configuration already exists at " ++ path ++ "; use --force to overwrite it"]
  | notWritten fault => [writeFailure fault, fault.message]
  | configuration error => [error.message]
  | inconsistent violations => [Contract.violationsMessage violations]
  | unreadable path fault => ["unable to read " ++ path, fault.message]
  | noJson fault => ["the plan is not valid JSON", fault.message]
  | plan error => [error.message]
  | startConfiguration error => [error.message, error.message]
  | startRuntime error =>
    match error with
    | .inconsistent _ => [error.message, error.message, error.message]
    | _ => [error.message, error.message]
  | start error => [error.message, error.message]
  | request error => error.message :: requestCauses error

/-- The report of a failure. -/
def report (e : CommandError) : String := String.intercalate ": " e.causes

end CommandError

end QueryGate.Command
