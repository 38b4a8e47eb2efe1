import QueryGate.Pattern.Flags
import QueryGate.Text.Hexadecimal
/-!
The smallest parts of patterns: characters, classes with a letter of their own, and edges.

A pattern may match nothing but whole characters, and no tables of the characters beyond ASCII are at hand. So a class
of letters or digits needs the flag for ASCII alone, and what could match single bytes of a longer character must not
have it.
-/
set_option autoImplicit false

namespace QueryGate.Pattern

/-- A smallest part of a pattern. -/
inductive Atom where
  /-- A character; `asByte` if it is written as a byte. -/
  | character (c : Char) (asByte : Bool)
  /-- Digits, blanks or letters of words, or all but those. -/
  | shorthand (negated : Bool)
  | anything
  /-- A place rather than a character: an end of the text or of a line, or an edge of a word. -/
  | edge (ofWord : Bool)
deriving DecidableEq, Repr

/-- The number that so many hexadecimal digits stand for, and what follows them. -/
def readHex (f : Flags) : Nat → Nat → List Char → Option (Nat × List Char)
  | 0, n, cs => some (n, cs)
  | count + 1, n, cs =>
    match f.skip cs with
    | [] => none
    | c :: rest =>
      match Text.hexValue? c with
      | some digit => readHex f count (16 * n + digit) rest
      | none => none

/-- A character that is given by its number, in so many hexadecimal digits. -/
def readCode (f : Flags) (count : Nat) (cs : List Char) : Option (Atom × List Char) :=
  match readHex f count 0 cs with
  | some (n, rest) => if n.isValidChar then some (.character (Char.ofNat n) (count = 2), rest) else none
  | none => none

/-- The letters that stand for a control after a backslash. -/
def controls : List (Char × Char) :=
  [('a', '\x07'), ('f', '\x0c'), ('t', '\t'), ('n', '\n'), ('r', '\r'), ('v', '\x0b')]

/-- Whether a backslash before a character makes it stand for itself. -/
def isEscapable (c : Char) : Bool := decide (c.toNat < 0x80) && !c.isAlphanum && c ≠ '<' && c ≠ '>'

/-- What stands after a backslash, and what follows it. -/
def readEscape (f : Flags) : List Char → Option (Atom × List Char)
  | [] => none
  | c :: rest =>
    if c = 'x' then readCode f 2 rest
    else if c = 'u' then readCode f 4 rest
    else if c = 'U' then readCode f 8 rest
    else if ['d', 's', 'w'].contains c then some (.shorthand false, rest)
    else if ['D', 'S', 'W'].contains c then some (.shorthand true, rest)
    else if isEscapable c then some (.character c false, rest)
    else if ['A', 'z'].contains c then some (.edge false, rest)
    else if ['b', 'B', '<', '>'].contains c then some (.edge true, rest)
    else (controls.lookup c).map fun control => (.character control false, rest)

/-- Whether a part can be used by itself. -/
def Flags.admits (f : Flags) : Atom → Bool
  | .character c asByte => if f.isUnicode then !f.ignoresCase else !(asByte && decide (0x80 ≤ c.toNat))
  | .shorthand negated => !f.isUnicode && !negated
  | .anything => f.isUnicode
  | .edge _ => true

/-- Whether a part can be used in a class. -/
def Flags.admitsInClass (f : Flags) : Atom → Bool
  | .character c _ => f.isUnicode || decide (c.toNat < 0x80)
  | .shorthand negated => !f.isUnicode && !negated
  | _ => false

/-- Whether a class in brackets can be used. -/
def Flags.admitsClass (f : Flags) (negated : Bool) : Bool := if f.isUnicode then !f.ignoresCase else !negated

end QueryGate.Pattern
