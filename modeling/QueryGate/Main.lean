import QueryGate.Command.Program
/-!
The program on a real machine: its files, its standard input and its environment. This build has no driver for the
database, so a command that needs one reports that it cannot connect.
-/
set_option autoImplicit false

namespace QueryGate.Command

open Files Settings

/-- The machine's code for a path that leads through a file. -/
def notADirectoryCode : UInt32 := 20

/-- The machine's code for a name that is too long. -/
def nameTooLongCode : UInt32 := 36

/-- Whether the machine gave this code; some of its calls give it with the opposite sign. -/
def gaveCode (code given : UInt32) : Bool := given = code || given = 0 - code

/-- What is wrong with a file, as the machine puts it. -/
def fileFault : IO.Error → FileFault
  | .noFileOrDirectory .. => .missing
  | .alreadyExists .. => .alreadyThere
  | .inappropriateType _ code _ => if gaveCode notADirectoryCode code then .notADirectory else .isADirectory
  | .invalidArgument _ code text =>
    if gaveCode nameTooLongCode code then .nameTooLong else .other (toString (IO.Error.invalidArgument none code text))
  | error => .other (toString error)

/-- The result of an action, or what was wrong. -/
def attempt {α : Type} (action : IO α) : IO (Except FileFault α) := do
  match ← action.toBaseIO with
  | .ok a => pure (.ok a)
  | .error error => pure (.error (fileFault error))

/-- The result of an action at a path, or what was wrong. A path that cannot be one is not handed to the machine. -/
def attemptAt {α : Type} (path : String) (action : IO α) : IO (Except FileFault α) :=
  match checkPath path with
  | .ok _ => attempt action
  | .error fault => pure (.error fault)

/-- Text of a file or of the standard input. -/
def decodeText (bytes : ByteArray) : Except FileFault String :=
  match String.fromUTF8? bytes with
  | some text => .ok text
  | none => .error .notText

/-- The file system of the machine. -/
def machineFiles : Storage IO where
  readText path := do
    let bytes ← attemptAt path (IO.FS.readBinFile path)
    pure (bytes.bind decodeText)
  isThere path := do
    match ← attemptAt path (IO.FS.withFile path .read fun _ => pure ()) with
    | .ok _ | .error .isADirectory => pure (.ok true)
    | .error .missing => pure (.ok false)
    | .error fault => pure (.error fault)
  makeDirectory path := attemptAt path (IO.FS.createDir path)
  writeText path text := attemptAt path (IO.FS.writeFile path text)

/-- The environment of the process, as far as these variables go. -/
def machineEnvironment (names : List String) : IO Environment := do
  let found ← names.filterMapM fun name => do
    let value ← IO.getEnv name
    pure (value.map fun v => (name, v))
  pure (.ofList found)

/-- The machine as the surroundings of a command. -/
def machine : Surroundings IO where
  files := machineFiles
  readInput := do
    let bytes ← attempt do (← IO.getStdin).readBinToEnd
    pure (bytes.bind decodeText)
  environment := machineEnvironment
  database := ⟨[(.connect, "this build has no database driver")], [], [], [], none⟩
  directory := "."

end QueryGate.Command

open QueryGate.Command in
/-- Runs the program with the words of its command line. -/
def main (words : List String) : IO UInt32 := do
  let environment ← machineEnvironment [Arguments.directoryVariable, Arguments.logVariable]
  match Arguments.ofWords environment words with
  | none => do
    IO.eprintln "usage: storefront-planner [--context DIR] [--log FILTER] COMMAND"
    pure 2
  | some arguments => do
    let ending ← runProgram machine arguments
    IO.print ending.output
    IO.eprint ending.errors
    pure ending.code
