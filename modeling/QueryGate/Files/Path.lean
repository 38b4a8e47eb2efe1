import QueryGate.Files.Fault
/-!
Paths: names with slashes between them. A name can be blank, for a slash too many, and a blank name leads nowhere,
just as a dot does; but it stands behind a directory only.
-/
set_option autoImplicit false

namespace QueryGate.Files

/-- A path below a directory; an absolute path stands for itself. -/
def joinPath (directory name : String) : String :=
  if name.startsWith "/" then name
  else if directory = "" ∨ directory.endsWith "/" then directory ++ name
  else directory ++ "/" ++ name

/-- The names on a path. That of an absolute path begins with a blank one. -/
def names (path : String) : List String := (path.toList.splitOn '/').map String.ofList

/-- Whether a name leads from a directory to itself. -/
def staysThere (name : String) : Bool := name = "" || name = "."

/-- Names without the blank ones at their end. -/
def withoutSlashes (names : List String) : List String := (names.reverse.dropWhile (· = "")).reverse

/-- The parts of a path that end in a name which leads on, the longest first. The names are given last to first. -/
def stations : List String → List (List String)
  | [] => []
  | name :: outer => if staysThere name then stations outer else (name :: outer).reverse :: stations outer

/-- The paths of the directories that a path leads through, the innermost first. -/
def enclosing (path : String) : List String :=
  ((stations (names path).reverse).drop 1).map (String.intercalate "/")

/-- The greatest number of bytes in a name. -/
def greatestName : Nat := 255

/-- The greatest number of bytes in a path. -/
def greatestPath : Nat := 4095

/-- What is wrong with the text of a path, if anything is. -/
def checkPath (path : String) : Except FileFault Unit :=
  if path.contains '\x00' then .error .nulCharacter
  else if path = "" then .error .missing
  else if path.utf8ByteSize > greatestPath then .error .nameTooLong
  else .ok ()

end QueryGate.Files
