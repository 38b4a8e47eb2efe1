import QueryGate.Json.Value
/-!
The text of a JSON value: compact, and indented by two spaces. Strings escape the quote, the backslash and the
controls below the space, and nothing else. Documents whose members have an order of their own are printed from
`Tree`, which does not sort.
-/
set_option autoImplicit false

namespace QueryGate.Json

/-- A lower-case hexadecimal digit. -/
def hexDigit (n : Nat) : Char := Nat.digitChar n

/-- A character as it stands inside a JSON string. -/
def escapeChar (c : Char) : List Char :=
  if c = '"' then ['\\', '"']
  else if c = '\\' then ['\\', '\\']
  else if c.toNat = 0x08 then ['\\', 'b']
  else if c.toNat = 0x0c then ['\\', 'f']
  else if c = '\n' then ['\\', 'n']
  else if c = '\r' then ['\\', 'r']
  else if c = '\t' then ['\\', 't']
  else if c.toNat < 0x20 then ['\\', 'u', '0', '0', hexDigit (c.toNat / 16), hexDigit (c.toNat % 16)]
  else [c]

/-- A string in JSON quotes. -/
def quote (s : String) : String :=
  String.ofList ('"' :: s.toList.flatMap escapeChar ++ ['"'])

/-- A JSON document to be written: the members of an object are written in the order in which they stand. -/
inductive Tree where
  | null
  | boolean (value : Bool)
  | number (value : Numeral)
  | string (value : String)
  | list (items : List Tree)
  | object (members : List (String × Tree))
deriving Repr

mutual

/-- A value as a document, its members sorted as they are in the value. -/
def Value.toTree : Value → Tree
  | .null => .null
  | .boolean b => .boolean b
  | .number n => .number n
  | .string s => .string s
  | .list items => .list (Value.toTrees items)
  | .object members => .object (Value.toMembers members)

/-- The documents of a list of values. -/
def Value.toTrees : List Value → List Tree
  | [] => []
  | v :: rest => v.toTree :: Value.toTrees rest

/-- The documents of the members of an object. -/
def Value.toMembers : List (String × Value) → List (String × Tree)
  | [] => []
  | (k, v) :: rest => (k, v.toTree) :: Value.toMembers rest

end

mutual

/-- The members of objects sorted by key, at every depth; of equal keys the last one counts. -/
def Tree.toValue : Tree → Value
  | .null => .null
  | .boolean b => .boolean b
  | .number n => .number n
  | .string s => .string s
  | .list items => .list (Tree.toValues items)
  | .object members => .ofMembers (Tree.toMemberValues members)

/-- The values of a list of documents. -/
def Tree.toValues : List Tree → List Value
  | [] => []
  | t :: rest => t.toValue :: Tree.toValues rest

/-- The values of the members of a document. -/
def Tree.toMemberValues : List (String × Tree) → List (String × Value)
  | [] => []
  | (k, t) :: rest => (k, t.toValue) :: Tree.toMemberValues rest

end

/-- The word for a truth value. -/
def boolWord (b : Bool) : String := if b then "true" else "false"

mutual

/-- The compact text of a document. -/
def Tree.compact : Tree → String
  | .null => "null"
  | .boolean b => boolWord b
  | .number n => n.write
  | .string s => quote s
  | .list items => "[" ++ Tree.compactItems items ++ "]"
  | .object members => "\x7b" ++ Tree.compactMembers members ++ "\x7d"

/-- The items of a list with commas between them. -/
def Tree.compactItems : List Tree → String
  | [] => ""
  | [t] => t.compact
  | t :: u :: rest => t.compact ++ "," ++ Tree.compactItems (u :: rest)

/-- The members of an object with commas between them. -/
def Tree.compactMembers : List (String × Tree) → String
  | [] => ""
  | [(k, t)] => quote k ++ ":" ++ t.compact
  | (k, t) :: m :: rest => quote k ++ ":" ++ t.compact ++ "," ++ Tree.compactMembers (m :: rest)

end

/-- A line break and the indentation of a depth. -/
def newLine (depth : Nat) : String := String.ofList ('\n' :: List.replicate (2 * depth) ' ')

mutual

/-- The indented text of a document that stands at a depth. -/
def Tree.prettyAt (depth : Nat) : Tree → String
  | .null => "null"
  | .boolean b => boolWord b
  | .number n => n.write
  | .string s => quote s
  | .list [] => "[]"
  | .list (t :: rest) => "[" ++ Tree.prettyItems (depth + 1) (t :: rest) ++ newLine depth ++ "]"
  | .object [] => "\x7b\x7d"
  | .object (m :: rest) => "\x7b" ++ Tree.prettyMembers (depth + 1) (m :: rest) ++ newLine depth ++ "\x7d"

/-- The items of a list, each on a line of its own. -/
def Tree.prettyItems (depth : Nat) : List Tree → String
  | [] => ""
  | [t] => newLine depth ++ t.prettyAt depth
  | t :: u :: rest => newLine depth ++ t.prettyAt depth ++ "," ++ Tree.prettyItems depth (u :: rest)

/-- The members of an object, each on a line of its own. -/
def Tree.prettyMembers (depth : Nat) : List (String × Tree) → String
  | [] => ""
  | [(k, t)] => newLine depth ++ quote k ++ ": " ++ t.prettyAt depth
  | (k, t) :: m :: rest =>
    newLine depth ++ quote k ++ ": " ++ t.prettyAt depth ++ "," ++ Tree.prettyMembers depth (m :: rest)

end

/-- The text of a document, indented by two spaces a level. -/
def Tree.pretty (t : Tree) : String := t.prettyAt 0

/-- The compact text of a value. -/
def Value.compact (v : Value) : String := v.toTree.compact

/-- The indented text of a value. -/
def Value.pretty (v : Value) : String := v.toTree.pretty

end QueryGate.Json
