import QueryGate.Pattern.Atom
/-!
Classes of characters in square brackets: characters, ranges, classes with names and further classes, and operators
between sets of those. Of a class that can be used only the depth is kept.
-/
set_option autoImplicit false

namespace QueryGate.Pattern

/-- How deep the parts of a row are nested: a row of one part is that part. -/
def rowDepth : List Nat → Nat
  | [] => 0
  | [depth] => depth
  | depths => depths.foldl max 0 + 1

/-- How deep a set is nested, given what stands to the left of its last operator. -/
def setDepth (left : Option Nat) (items : List Nat) : Nat :=
  match left with
  | none => rowDepth items
  | some depth => max depth (rowDepth items) + 1

/-- The names of classes. -/
def classNames : List (List Char) :=
  ["alnum", "alpha", "ascii", "blank", "cntrl", "digit", "graph", "lower", "print", "punct", "space", "upper", "word",
    "xdigit"].map String.toList

/-- A named class after its opening bracket: whether it is negated, and what follows it. -/
def namedClass? : List Char → Option (Bool × List Char)
  | ':' :: rest =>
    let (negated, rest) := match rest with
      | '^' :: more => (true, more)
      | _ => (false, rest)
    match rest.dropWhile (· ≠ ':') with
    | ':' :: ']' :: more => if classNames.contains (rest.takeWhile (· ≠ ':')) then some (negated, more) else none
    | _ => none
  | _ => none

/-- The character that decides whether a minus sign makes a range; `cs` is what follows the sign. Only one sign of a
comment is passed over, and none if nothing else follows. -/
def Flags.peek (f : Flags) (cs : List Char) : Option Char :=
  if f.skipsBlanks then
    match cs.dropWhile Text.isBlank with
    | '#' :: rest => (rest.dropWhile Text.isBlank).head?.or cs.head?
    | c :: _ => some c
    | [] => cs.head?
  else cs.head?

/-- One part of a class, and what follows it. -/
def readClassAtom (f : Flags) : List Char → Option (Atom × List Char)
  | [] => none
  | '\\' :: rest => readEscape f rest
  | c :: rest => some (.character c false, rest)

/-- Whether a range can be used: from one character to another that does not come before it. -/
def Flags.admitsRange (f : Flags) : Atom → Atom → Bool
  | .character first x, .character last y =>
    f.admitsInClass (.character first x) && f.admitsInClass (.character last y) && decide (first ≤ last)
  | _, _ => false

/-- What follows one part of a class or a range. -/
def readRange (f : Flags) (cs : List Char) : Option (List Char) := do
  let (first, rest) ← readClassAtom f cs
  match f.skip rest with
  | [] => none
  | '-' :: more =>
    if f.peek more = some ']' ∨ f.peek more = some '-' then
      if f.admitsInClass first then some ('-' :: more) else none
    else do
      let (last, rest) ← readClassAtom f (f.skip more)
      if f.admitsRange first last then some rest else none
  | more => if f.admitsInClass first then some more else none

/-- The minus signs at the beginning of a class, which stand for themselves, and what follows them. -/
def leadingSigns (f : Flags) : Nat → Nat → List Char → Nat × List Char
  | 0, count, cs => (count, cs)
  | fuel + 1, count, cs =>
    match f.skip cs with
    | '-' :: rest => leadingSigns f fuel (count + 1) rest
    | rest => (count, rest)

/-- The beginning of a class after its opening bracket: whether it is negated, the depths of its first parts, and what
follows. A closing bracket in the first place stands for itself. -/
def openClass (f : Flags) (cs : List Char) : Bool × List Nat × List Char :=
  let (negated, rest) := match f.skip cs with
    | '^' :: rest => (true, rest)
    | rest => (false, rest)
  match leadingSigns f rest.length 0 rest with
  | (0, ']' :: more) => (negated, [0], more)
  | (count, more) => (negated, List.replicate count 0, more)

mutual

/-- The depth of a class, and what follows it; `cs` comes after its opening bracket. -/
def readClass (f : Flags) (fuel : Nat) (cs : List Char) : Option (Nat × List Char) :=
  match fuel with
  | 0 => none
  | fuel + 1 =>
    let (negated, items, rest) := openClass f cs
    if f.admitsClass negated then readClassItems f fuel none items rest else none

/-- Reads on in a class: `left` is the depth of what stands to the left of its last operator, and `items` are the
depths of the parts after it. -/
def readClassItems (f : Flags) (fuel : Nat) (left : Option Nat) (items : List Nat) (cs : List Char) :
    Option (Nat × List Char) :=
  match fuel, f.skip cs with
  | 0, _ => none
  | _, [] => none
  | _, ']' :: rest => some (setDepth left items + 1, rest)
  | fuel + 1, '[' :: rest =>
    match namedClass? rest with
    | some (negated, more) => if f.admitsClass negated then readClassItems f fuel left (0 :: items) more else none
    | none =>
      match readClass f fuel rest with
      | some (depth, more) => readClassItems f fuel left (depth :: items) more
      | none => none
  | fuel + 1, '&' :: '&' :: rest => readClassItems f fuel (some (setDepth left items)) [] rest
  | fuel + 1, '-' :: '-' :: rest => readClassItems f fuel (some (setDepth left items)) [] rest
  | fuel + 1, '~' :: '~' :: rest => readClassItems f fuel (some (setDepth left items)) [] rest
  | fuel + 1, more =>
    match readRange f more with
    | some rest => readClassItems f fuel left (0 :: items) rest
    | none => none

end

end QueryGate.Pattern
