import QueryGate.Files.Storage
import QueryGate.Settings.Configuration
import QueryGate.Settings.JsonSchema
/-!
The directory of a configuration: the configuration itself and, when it is written, its schema beside it.
-/
set_option autoImplicit false

namespace QueryGate.Settings

open Files

/-- The name of the file that holds a configuration. -/
def configurationFile : String := "configuration.json"

/-- The name of the file that holds the schema. -/
def schemaFile : String := "schema.json"

/-- Reads the configuration in a directory. -/
def readDirectory {m : Type → Type} [Monad m] (files : Storage m) (directory : String) :
    m (Except ConfigurationError Configuration) := do
  let path := joinPath directory configurationFile
  match ← files.readText path with
  | .ok text => pure (Configuration.ofFile path text)
  | .error fault => pure (.error (.unreadable path fault))

/-- Writes a configuration and its schema into a directory, which is made if need be. The first failure ends the
writing. -/
def writeDirectory {m : Type → Type} [Monad m] (files : Storage m) (directory : String) (c : Configuration) :
    m (Except FileFault Unit) :=
  ExceptT.run do
    ExceptT.mk (files.makeDirectories directory)
    ExceptT.mk (files.writeText (joinPath directory configurationFile) c.toFile)
    ExceptT.mk (files.writeText (joinPath directory schemaFile) JsonSchema.file)

/-- The wording of why a configuration was not written. -/
def writeFailure (fault : FileFault) : String := "I/O error: " ++ fault.message

end QueryGate.Settings
