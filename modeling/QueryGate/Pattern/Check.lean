import QueryGate.Pattern.Bracket
import QueryGate.Text.Alphanumeric
/-!
Which patterns can be used. A pattern is read from left to right; kept of it is what decides that: how deep its parts
are nested, the names of its groups, and whether it asks for the edges of words in all scripts.
-/
set_option autoImplicit false

namespace QueryGate.Pattern

/-- Why a pattern cannot be used. -/
inductive PatternFault where
  /-- It breaks the rules of writing, or needs what is not at hand. -/
  | malformed
  /-- It asks for edges of words in all scripts. -/
  | wordEdges
deriving DecidableEq, Repr

/-- The wording of why a pattern cannot be used. -/
def PatternFault.message : PatternFault → String
  | malformed => "error building NFA"
  | wordEdges =>
    "unsupported regex feature for DFAs: cannot build DFAs for regexes with Unicode word boundaries; switch to ASCII "
      ++ "word boundaries, or heuristically enable Unicode word boundaries or use a different regex engine"

/-- How deep the parts of a pattern may be nested. -/
def greatestDepth : Nat := 250

/-- A part of a row. A list of flags is one, but cannot be repeated. -/
structure Part where
  depth : Nat
  isRepeatable : Bool
deriving DecidableEq, Repr

/-- A pattern, or what is inside a group, read up to some place. -/
structure Progress where
  flags : Flags
  /-- The names of groups. -/
  names : List (List Char)
  wordEdges : Bool
  /-- The depths of the alternatives before the one under way. -/
  branches : List Nat
  /-- The parts of the alternative under way, the last one first. -/
  parts : List Part
deriving DecidableEq, Repr

namespace Progress

/-- Nothing has been read. -/
def start (flags : Flags) (names : List (List Char)) (wordEdges : Bool) : Progress :=
  ⟨flags, names, wordEdges, [], []⟩

/-- One part more. -/
def add (p : Progress) (depth : Nat) (isRepeatable : Bool) : Progress :=
  { p with parts := ⟨depth, isRepeatable⟩ :: p.parts }

/-- The depths of all alternatives. -/
def depths (p : Progress) : List Nat := rowDepth (p.parts.map Part.depth) :: p.branches

/-- A further alternative begins. -/
def branch (p : Progress) : Progress := { p with branches := p.depths, parts := [] }

/-- How deep everything is nested. -/
def depth (p : Progress) : Nat := rowDepth p.depths

/-- The last part is repeated. -/
def again? (p : Progress) : Option Progress :=
  match p.parts with
  | last :: others => if last.isRepeatable then some { p with parts := ⟨last.depth + 1, true⟩ :: others } else none
  | [] => none

/-- One smallest part more. -/
def addAtom? (p : Progress) (a : Atom) : Option Progress :=
  if p.flags.admits a then
    some { p.add 0 true with wordEdges := p.wordEdges || (a = .edge true && p.flags.isUnicode) }
  else none

end Progress

/-- Whether this can be the name of a group. -/
def isGroupName : List Char → Bool
  | [] => false
  | c :: rest =>
    (c = '_' || Text.isLetter c) && rest.all fun d => ['_', '.', '[', ']'].contains d || Text.isAlphanumeric d

/-- What begins with a bracket. -/
inductive Opening where
  | flags (items : List Char)
  | group (items : List Char) (names : List (List Char))

/-- The opening of a group with a name, which no other group has; `cs` begins with the name. -/
def readName (names : List (List Char)) (cs : List Char) : Option (Opening × List Char) :=
  let name := cs.takeWhile (· ≠ '>')
  match cs.dropWhile (· ≠ '>') with
  | [] => none
  | _ :: rest => if isGroupName name && !names.contains name then some (.group [] (name :: names), rest) else none

/-- An opening, and what follows it; `cs` comes after its bracket. -/
def readOpening (names : List (List Char)) : List Char → Option (Opening × List Char)
  | '?' :: 'P' :: '<' :: rest => readName names rest
  | '?' :: '<' :: rest => readName names rest
  | '?' :: rest =>
    let items := rest.takeWhile fun c => c ≠ ':' && c ≠ ')'
    match rest.dropWhile fun c => c ≠ ':' && c ≠ ')' with
    | ':' :: more => if Flags.isList items then some (.group items names, more) else none
    | ')' :: more => if Flags.isList items && items ≠ [] then some (.flags items, more) else none
    | _ => none
  | rest => some (.group [] names, rest)

/-- Reads a pattern, or what is inside a group. The rest begins with the bracket that closes the group, unless nothing
is left. The fuel is the length of the pattern. -/
def read (fuel : Nat) (p : Progress) (cs : List Char) : Option (Progress × List Char) :=
  match fuel, p.flags.skip cs with
  | _, [] => some (p, [])
  | 0, _ => none
  | fuel + 1, c :: rest =>
    if c = ')' then some (p, c :: rest)
    else if c = '(' then
      match readOpening p.names (p.flags.skip rest) with
      | some (.flags items, more) => read fuel ({ p with flags := p.flags.change items }.add 0 false) more
      | some (.group items names, more) =>
        match read fuel (.start (p.flags.change items) names p.wordEdges) more with
        | some (inner, ')' :: more) =>
          read fuel ({ p with names := inner.names, wordEdges := inner.wordEdges }.add (inner.depth + 1) true) more
        | _ => none
      | none => none
    else if c = '|' then read fuel p.branch rest
    else if c = '[' then
      match readClass p.flags (2 * rest.length + 1) rest with
      | some (depth, more) => read fuel (p.add depth true) more
      | none => none
    else if c = '*' ∨ c = '+' ∨ c = '?' then
      match p.again? with
      | some p => read fuel p (if rest.head? = some '?' then rest.tail else rest)
      | none => none
    else if c = '\x7b' then none
    else if c = '\\' then
      match readEscape p.flags rest with
      | some (a, more) => (p.addAtom? a).bind fun p => read fuel p more
      | none => none
    else
      let a := if c = '.' then Atom.anything else if c = '^' ∨ c = '$' then .edge false else .character c false
      (p.addAtom? a).bind fun p => read fuel p rest

/-- What is wrong with a pattern, if anything is. -/
def check (pattern : List Char) : Except PatternFault Unit :=
  match read (pattern.length + 1) (.start .initial [] false) pattern with
  | some (p, []) =>
    if greatestDepth < p.depth then .error .malformed else if p.wordEdges then .error .wordEdges else .ok ()
  | _ => .error .malformed

end QueryGate.Pattern
