import QueryGate.Files.Storage
/-!
Trees of files that are held in memory. Commands can be run on them, and reasoned about, without a disk.

A path is walked name by name. Each name is looked up in a directory, so that a path which leads through a file, or on
from where nothing is, fails there, and what follows is not looked at.
-/
set_option autoImplicit false

namespace QueryGate.Files

/-- What stands at a place. -/
inductive Entry where
  | directory
  | file (bytes : ByteArray)

/-- A tree of files: what stands at each place but the root, which is a directory. A place is given by the names that
lead to it from the root. -/
structure FileTree where
  entries : List (List String × Entry)
  /-- Where relative paths begin. -/
  workingDirectory : List String

namespace FileTree

/-- The tree with nothing but the directory in which one works. -/
def empty (workingDirectory : List String) : FileTree where
  entries := (stations workingDirectory.reverse).map fun place => (place, .directory)
  workingDirectory

/-- What stands at a place. -/
def entry? (t : FileTree) (place : List String) : Option Entry :=
  if place = [] then some .directory else t.entries.lookup place

/-- Puts something at a place. -/
def put (t : FileTree) (place : List String) (e : Entry) : FileTree :=
  { t with entries := (place, e) :: t.entries.filter fun other => other.1 ≠ place }

/-- Where a name leads from a place, which has to be a directory. Something need not be there. -/
def follow (t : FileTree) (place : List String) (name : String) : Except FileFault (List String) :=
  match t.entry? place with
  | none => .error .missing
  | some (.file _) => .error .notADirectory
  | some .directory =>
    if staysThere name then .ok place
    else if name = ".." then .ok place.dropLast
    else if name.utf8ByteSize > greatestName then .error .nameTooLong
    else .ok (place ++ [name])

/-- Where a path begins. -/
def start (t : FileTree) (path : String) : List String := if path.startsWith "/" then [] else t.workingDirectory

/-- Where a path leads. -/
def walk (t : FileTree) (path : String) : Except FileFault (List String) := do
  checkPath path
  (names path).foldlM t.follow (t.start path)

/-- Where a path leads if slashes at its end are left out. -/
def walkWithoutSlashes (t : FileTree) (path : String) : Except FileFault (List String) := do
  checkPath path
  (withoutSlashes (names path)).foldlM t.follow (t.start path)

/-- What stands at a path. -/
def find (t : FileTree) (path : String) : Except FileFault Entry := do
  match t.entry? (← t.walk path) with
  | some e => .ok e
  | none => .error .missing

/-- The text of a file. -/
def readText (t : FileTree) (path : String) : Except FileFault String := do
  match ← t.find path with
  | .directory => .error .isADirectory
  | .file bytes =>
    match String.fromUTF8? bytes with
    | some text => .ok text
    | none => .error .notText

/-- Whether something stands at a path. -/
def isThere (t : FileTree) (path : String) : Except FileFault Bool :=
  match t.find path with
  | .ok _ => .ok true
  | .error .missing => .ok false
  | .error fault => .error fault

/-- Makes a directory in one that is there. Slashes at the end of its path say no more than that it is a directory. -/
def makeDirectory (t : FileTree) (path : String) : Except FileFault FileTree := do
  let place ← t.walkWithoutSlashes path
  match t.entry? place with
  | some _ => .error .alreadyThere
  | none => .ok (t.put place .directory)

/-- Writes bytes to a file in a directory that is there. A path that ends in a slash is none of a file. -/
def writeBytes (t : FileTree) (path : String) (bytes : ByteArray) : Except FileFault FileTree := do
  let place ← t.walkWithoutSlashes path
  match t.entry? place with
  | some .directory => .error .isADirectory
  | _ => if path.endsWith "/" then .error .isADirectory else .ok (t.put place (.file bytes))

/-- Changes the tree unless the change is refused. -/
def change (f : FileTree → Except FileFault FileTree) : StateM FileTree (Except FileFault Unit) := do
  match f (← get) with
  | .ok t => do
    set t
    pure (.ok ())
  | .error fault => pure (.error fault)

/-- A tree of files as a file system. -/
def storage : Storage (StateM FileTree) where
  readText path := do pure ((← get).readText path)
  isThere path := do pure ((← get).isThere path)
  makeDirectory path := change fun t => t.makeDirectory path
  writeText path text := change fun t => t.writeBytes path text.toUTF8

end FileTree

end QueryGate.Files
