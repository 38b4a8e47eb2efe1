import QueryGate.Command.Basic
/-!
Running commands. What a command needs from outside is handed to it: files, the standard input, variables of the
environment, and the database. The result is what it prints, or why it failed, and the calls that the database saw.
-/
set_option autoImplicit false

namespace QueryGate.Command

open Files Json Plan Settings Planner

/-- What commands need from outside. -/
structure Surroundings (m : Type → Type) where
  files : Storage m
  /-- The text of the standard input. -/
  readInput : m (Except FileFault String)
  /-- An environment in which these variables can be read. -/
  environment : List String → m Environment
  /-- How the database behaves. -/
  database : Guard.Database
  /-- The directory of the configuration. -/
  directory : String

/-- What became of a command. -/
structure Outcome where
  result : Except CommandError String
  calls : List Guard.Call

variable {m : Type → Type} [Monad m]

/-- A step of a command, which can fail. -/
abbrev Step (m : Type → Type) : Type → Type := ExceptT CommandError m

/-- A step whose failure is a reason of its own kind. -/
def step {α ε : Type} (reason : ε → CommandError) (action : m (Except ε α)) : Step m α :=
  ExceptT.mk do
    let result ← action
    pure (result.mapError reason)

/-- A step that does nothing outside. -/
def settle {α ε : Type} (reason : ε → CommandError) (result : Except ε α) : Step m α :=
  ExceptT.mk (pure (result.mapError reason))

/-- The text that a command works on. -/
def readSource (s : Surroundings m) : Source → Step m String
  | .file path => step (CommandError.unreadable path) (s.files.readText path)
  | .input => step CommandError.file s.readInput

/-- The plan that a command works on. -/
def readPlan (s : Surroundings m) (source : Source) : Step m Value := do
  let text ← readSource s source
  settle CommandError.noJson (Value.ofText text)

/-- The contract of the configuration, which is checked. Its secrets are not looked up. -/
def readContract (s : Surroundings m) : Step m Contract := do
  let c ← step CommandError.configuration (readDirectory s.files s.directory)
  settle CommandError.inconsistent (Contract.check c.contract)
  pure c.contract

/-- Writes the initial configuration. -/
def setUp (s : Surroundings m) (force : Bool) : Step m String := do
  let path := joinPath s.directory configurationFile
  let isThere ← if force then pure false else step CommandError.file (s.files.isThere path)
  if isThere then throw (.alreadyThere path)
  else do
    step CommandError.notWritten (writeDirectory s.files s.directory .initial)
    pure ""

/-- Prints the statement of a plan with its parameters, and the plan as it was understood. -/
def compile (s : Surroundings m) (source : Source) : Step m String := do
  let contract ← readContract s
  let v ← readPlan s source
  let (plan, query) ← settle CommandError.plan (Compile.compileValue (.ofContract contract) v)
  let document := Tree.object [("plan", plan.toTree), ("sql", Compile.statementTree query.statement)]
  pure (document.toValue.pretty ++ "\n")

/-- The planner of the configuration in service. -/
def startPlanner (s : Surroundings m) : Step m (QueryGate.Planner × State) := do
  let c ← step CommandError.startConfiguration (readDirectory s.files s.directory)
  let environment ← ExceptT.lift (s.environment c.connection.variableNames)
  let settings ← settle CommandError.startRuntime (c.resolve environment)
  let planner := QueryGate.Planner.ofSettings settings
  let state ← settle CommandError.start (planner.start false s.database.faults)
  pure (planner, state)

/-- What became of a request. -/
def outcomeOf {α : Type} (write : α → String) : Result α → Outcome
  | (.ok a, state) => ⟨.ok (write a), state.link.calls⟩
  | (.error error, state) => ⟨.error (.request error), state.link.calls⟩

/-- The text of an explanation: each part under its title. -/
def explanationText (e : Explanation) : String :=
  String.join (e.parts.map fun (title, detail) => title ++ ":\n" ++ detail ++ "\n\n")

/-- Prints the answer to a reply. -/
def query (s : Surroundings m) (source : Source) : Step m Outcome := do
  let text ← readSource s source
  let (planner, state) ← startPlanner s
  pure (outcomeOf (fun a => a.toTree.pretty ++ "\n") (planner.answer s.database text state))

/-- Prints the explanation of a plan. -/
def explain (s : Surroundings m) (source : Source) : Step m Outcome := do
  let v ← readPlan s source
  let (planner, state) ← startPlanner s
  pure (outcomeOf explanationText (planner.explain s.database v state))

/-- What became of a command that leaves the database alone. -/
def withoutCalls (s : Step m String) : m Outcome := do
  let result ← s.run
  pure ⟨result, []⟩

/-- What became of a command that may reach the database. -/
def withCalls (s : Step m Outcome) : m Outcome := do
  match ← s.run with
  | .ok outcome => pure outcome
  | .error error => pure ⟨.error error, []⟩

/-- Runs a command. -/
def run (s : Surroundings m) : Invocation → m Outcome
  | .setUp force => withoutCalls (setUp s force)
  | .describe => withoutCalls do
    let contract ← readContract s
    pure (Contract.describe contract)
  | .compile source => withoutCalls (compile s source)
  | .query source => withCalls (query s source)
  | .explain source => withCalls (explain s source)
  | .schema => withoutCalls (pure JsonSchema.file)

end QueryGate.Command
