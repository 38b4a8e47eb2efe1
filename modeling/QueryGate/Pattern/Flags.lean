import QueryGate.Text.Blank
/-!
Flags of patterns. A list of flags switches each of them on, or off if it stands after a minus sign, for the rest of the
group that it stands in.
-/
set_option autoImplicit false

namespace QueryGate.Pattern

/-- The flags that decide which patterns can be used. -/
structure Flags where
  /-- Letters of either case are taken for each other. -/
  ignoresCase : Bool
  /-- What a pattern says of characters it says of all of them, and not only of ASCII. -/
  isUnicode : Bool
  /-- White space and comments in the pattern do not count. -/
  skipsBlanks : Bool
deriving DecidableEq, Repr

namespace Flags

/-- The flags at the beginning of a pattern. -/
def initial : Flags := ⟨false, true, false⟩

/-- The letters of the flags. -/
def letters : List Char := ['i', 'm', 's', 'U', 'u', 'R', 'x']

/-- Whether this is a list of flags: none is named twice, and a minus sign stands before one. -/
def isList (items : List Char) : Bool :=
  items.all (fun c => c = '-' || letters.contains c) && decide items.Nodup && items.getLast? ≠ some '-'

/-- What a list makes of the flag with a letter. -/
def setting (items : List Char) (letter : Char) (before : Bool) : Bool :=
  if items.contains letter then !(items.takeWhile (· ≠ letter)).contains '-' else before

/-- The flags after a list of them. -/
def change (f : Flags) (items : List Char) : Flags where
  ignoresCase := setting items 'i' f.ignoresCase
  isUnicode := setting items 'u' f.isUnicode
  skipsBlanks := setting items 'x' f.skipsBlanks

end Flags

/-- A text without the white space and the comments at its beginning. A comment goes on to the end of its line. -/
def withoutComments (inComment : Bool) : List Char → List Char
  | [] => []
  | c :: rest =>
    if inComment then withoutComments (c ≠ '\n') rest
    else if Text.isBlank c then withoutComments false rest
    else if c = '#' then withoutComments true rest
    else c :: rest

/-- What comes next in a pattern. -/
def Flags.skip (f : Flags) (cs : List Char) : List Char := if f.skipsBlanks then withoutComments false cs else cs

end QueryGate.Pattern
