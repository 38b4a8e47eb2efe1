import QueryGate.Contract.Document
import QueryGate.Contract.Storefront
import QueryGate.Files.Fault
import QueryGate.Settings.Pool
import QueryGate.Settings.Secret
/-!
Configurations as they are written: how to reach the database and which resources may be queried. A configuration says
the version of its format, and only the current one is read.
-/
set_option autoImplicit false

namespace QueryGate.Settings

open Json

/-- A configuration as it is written. -/
structure Configuration where
  version : UInt32
  connection : Secret
  pool : PoolSettings
  /-- How long a statement may run, in milliseconds. -/
  queryTimeout : UInt64
  contract : Contract
deriving DecidableEq

/-- Why a configuration cannot be read. -/
inductive ConfigurationError where
  | malformed (path : String) (fault : Fault)
  | unsupportedVersion (version : UInt32)
  | unreadable (path : String) (fault : Files.FileFault)
deriving DecidableEq, Repr

namespace Configuration

/-- The version of the format. -/
def currentVersion : UInt32 := 1

/-- The time limit of a configuration that gives none. -/
def standardTimeout : UInt64 := 6000

/-- The variable that holds the address of the database unless something else is said. -/
def standardVariable : String := "STOREFRONT_DATABASE_URL"

/-- The configuration without resources. -/
def empty : Configuration :=
  ⟨currentVersion, .inVariable standardVariable, .standard, standardTimeout, ⟨.empty⟩⟩

/-- The configuration to begin with. -/
def initial : Configuration := { empty with contract := Contract.Storefront.contract }

/-! ## Reading -/

/-- A configuration as far as it has been read. -/
structure Draft where
  version : Option UInt32
  connection : Option Secret
  pool : Option PoolSettings
  queryTimeout : Option UInt64
  contract : Option Contract

/-- The configuration that a draft makes, or the name of the field that is missing. -/
def Draft.finish (d : Draft) : Except String Configuration := do
  let version ← Contract.required "version" d.version
  let connection ← Contract.required "connectionUri" d.connection
  .ok ⟨version, connection, d.pool.getD .standard, d.queryTimeout.getD standardTimeout, d.contract.getD ⟨.empty⟩⟩

/-- The shape of a configuration. -/
def shape : Shape Configuration :=
  Shape.record ⟨"struct ParsedConfiguration",
    [Shape.field "version" Draft.version (fun d x => { d with version := some x }) .word32,
      Shape.field "connectionUri" Draft.connection (fun d x => { d with connection := some x }) Secret.shape,
      Shape.field "poolSettings" Draft.pool (fun d x => { d with pool := some x }) PoolSettings.shape,
      Shape.field "queryTimeoutMs" Draft.queryTimeout (fun d x => { d with queryTimeout := some x }) .word64,
      Shape.field "contract" Draft.contract (fun d x => { d with contract := some x }) Contract.shape],
    ⟨none, none, none, none, none⟩,
    Draft.finish⟩

/-- Reads a configuration of any version from its text. -/
def ofText (text : String) : Except Fault Configuration := shape.readText text

/-- Reads a configuration of the current version from the text of the file at `path`. -/
def ofFile (path text : String) : Except ConfigurationError Configuration := do
  let c ← (ofText text).mapError (ConfigurationError.malformed path)
  if c.version = currentVersion then .ok c else .error (.unsupportedVersion c.version)

/-! ## Writing -/

/-- The document of a configuration. Settings of the pool that are all standard are left out. -/
def toTree (c : Configuration) : Tree :=
  .object ([("version", .number (.natural c.version.toNat)), ("connectionUri", c.connection.toTree)]
    ++ Contract.optionalMember "poolSettings" (if c.pool = .standard then none else some c.pool.toTree)
    ++ [("queryTimeoutMs", .number (.natural c.queryTimeout.toNat)), ("contract", Contract.toTree c.contract)])

/-- The text of a configuration as a file. -/
def toFile (c : Configuration) : String := c.toTree.pretty ++ "\n"

end Configuration

/-- The wording of why a configuration cannot be read. -/
def ConfigurationError.message : ConfigurationError → String
  | malformed path fault =>
    "parse error on " ++ path ++ ":" ++ toString fault.place.line ++ ":" ++ toString fault.place.column ++ ": "
      ++ fault.message
  | unsupportedVersion version =>
    "unsupported configuration version " ++ toString version.toNat ++ ", expected "
      ++ toString Configuration.currentVersion.toNat
  | unreadable path fault => "I/O error: " ++ path ++ ": " ++ fault.message

end QueryGate.Settings
