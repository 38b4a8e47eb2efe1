import QueryGate.Contract.Check
import QueryGate.Settings.Configuration
import QueryGate.Settings.Environment
/-!
Configurations as they are used: the address of the database is known, the contract is consistent, and the time limit
is one that the database takes for a limit.
-/
set_option autoImplicit false

namespace QueryGate.Settings

/-- The greatest time limit that the database takes, in milliseconds. -/
def greatestTimeout : Nat := 2147483647

/-- A configuration as it is used. -/
structure Runtime where
  contract : Contract
  pool : PoolSettings
  address : String
  /-- How long a statement may run, in milliseconds. -/
  timeout : Nat

/-- Why a configuration cannot be used. -/
inductive RuntimeError where
  | missingVariable (fault : VariableFault)
  | inconsistent (violations : List Contract.Violation)
  | timeoutOutOfRange (milliseconds : UInt64)

/-- The wording of why a configuration cannot be used. -/
def RuntimeError.message : RuntimeError → String
  | missingVariable fault => "missing environment variable when processing connectionUri: " ++ fault.message
  | inconsistent violations => Contract.violationsMessage violations
  | timeoutOutOfRange milliseconds =>
    "queryTimeoutMs must be between 1 and " ++ toString greatestTimeout ++ " milliseconds, got "
      ++ toString milliseconds.toNat

/-- The value of a secret. -/
def Secret.reveal (environment : Environment) : Secret → Except VariableFault String
  | plain value => .ok value
  | inVariable name => environment.read name

/-- A time limit: zero would mean none. -/
def boundedTimeout (milliseconds : UInt64) : Except RuntimeError Nat :=
  if 1 ≤ milliseconds.toNat ∧ milliseconds.toNat ≤ greatestTimeout then .ok milliseconds.toNat
  else .error (.timeoutOutOfRange milliseconds)

/-- Makes a configuration ready for use in an environment. -/
def Configuration.resolve (environment : Environment) (c : Configuration) : Except RuntimeError Runtime := do
  let address ← (c.connection.reveal environment).mapError RuntimeError.missingVariable
  let _ ← (Contract.check c.contract).mapError RuntimeError.inconsistent
  let timeout ← boundedTimeout c.queryTimeout
  .ok ⟨c.contract, c.pool, address, timeout⟩

end QueryGate.Settings
