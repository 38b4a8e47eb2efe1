import QueryGate.Command.Arguments
import QueryGate.Command.LogFilter
import QueryGate.Command.Run
/-!
The program as a whole: a command line leads to an exit code and two texts. A log filter that cannot be used is refused
before anything else is done.
-/
set_option autoImplicit false

namespace QueryGate.Command

/-- How the program ends. -/
structure Ending where
  code : UInt32
  output : String
  errors : String
deriving DecidableEq, Repr

namespace Ending

/-- The program did what it was asked. -/
def success (output : String) : Ending := ⟨0, output, ""⟩

/-- The program failed. -/
def failure (report : String) : Ending := ⟨1, "", report ++ "\n"⟩

/-- The ending for what became of a command. -/
def ofOutcome (o : Outcome) : Ending :=
  match o.result with
  | .ok output => success output
  | .error error => failure error.report

end Ending

/-- Runs the program. -/
def runProgram {m : Type → Type} [Monad m] (s : Surroundings m) (a : Arguments) : m Ending := do
  match LogFilter.check a.logFilter with
  | .error fault => pure (.failure fault.message)
  | .ok _ => do
    let outcome ← run { s with directory := a.directory } a.command
    pure (.ofOutcome outcome)

end QueryGate.Command
