import QueryGate.Files.Path
/-!
What programs here need of a file system, and the making of directories one inside the other.
-/
set_option autoImplicit false

namespace QueryGate.Files

/-- Access to files. -/
structure Storage (m : Type → Type) where
  /-- The text of a file. -/
  readText : String → m (Except FileFault String)
  /-- Whether something stands at a path. -/
  isThere : String → m (Except FileFault Bool)
  /-- Makes a directory in one that is there. -/
  makeDirectory : String → m (Except FileFault Unit)
  /-- Writes a file in place of what stands at its path. -/
  writeText : String → String → m (Except FileFault Unit)

namespace Storage

variable {m : Type → Type} [Monad m]

/-- Whether a directory stands at a path: nothing else has a dot below it. -/
def isDirectory (files : Storage m) (path : String) : m Bool := do
  match ← files.isThere (path ++ "/.") with
  | .ok there => pure there
  | .error _ => pure false

/-- Makes a directory unless it is there. -/
def ensureDirectory (files : Storage m) (path : String) : m (Except FileFault Unit) := do
  match ← files.makeDirectory path with
  | .ok _ => pure (.ok ())
  | .error .alreadyThere => do
    if ← files.isDirectory path then pure (.ok ()) else pure (.error .alreadyThere)
  | .error fault => pure (.error fault)

/-- Makes a directory unless it is there. If it has no place to stand, those outside it are made before it. -/
def ensureWithin (files : Storage m) (path : String) : List String → m (Except FileFault Unit)
  | [] => files.ensureDirectory path
  | outer :: rest => do
    match ← files.ensureDirectory path with
    | .error .missing => do
      match ← ensureWithin files outer rest with
      | .ok _ => files.ensureDirectory path
      | .error fault => pure (.error fault)
    | result => pure result

/-- Makes a directory and those that it is in unless they are there. What has been made stays when a later one cannot
be. -/
def makeDirectories (files : Storage m) (path : String) : m (Except FileFault Unit) :=
  if path = "" then pure (.ok ()) else files.ensureWithin path (enclosing path)

end Storage

end QueryGate.Files
