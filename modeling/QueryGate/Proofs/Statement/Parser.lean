import QueryGate.Proofs.Statement.Lexeme
/-!
A reader of statements. It accepts the text of a `SELECT` together with its parameters and gives back the syntax tree:
each placeholder is looked up among the parameters, a quoted identifier stands for its content, and everything else is
fixed words and a number.

Expressions are read with some fuel, one unit for each level of nesting. The number of tokens is always enough.
-/
set_option autoImplicit false

namespace QueryGate.Statement

/-! ## Tokens -/

/-- A lexeme whose placeholder has been looked up. -/
inductive Token where
  | quoted (name : String)
  | value (v : Json.Value)
  | char (c : Char)

/-- The token of a lexeme, unless its placeholder has no parameter or its identifier is not closed. -/
def tokenOf (parameters : List Json.Value) : Lexeme → Option Token
  | .quoted name => some (.quoted (String.ofList name))
  | .placeholder 0 => none
  | .placeholder (n + 1) => (parameters[n]?).map .value
  | .char c => some (.char c)
  | .unclosed _ => none

/-- The tokens of a statement. -/
def tokens (s : Statement) : Option (List Token) := (lex s.text.toList).mapM (tokenOf s.parameters)

/-! ## Words -/

/-- Reads the front of some tokens. -/
abbrev Reader (α : Type) : Type := List Token → Option (α × List Token)

/-- What follows some characters. -/
def skipChars : List Char → List Token → Option (List Token)
  | [], ts => some ts
  | c :: cs, .char d :: ts => if c = d then skipChars cs ts else none
  | _ :: _, _ => none

/-- What follows a word. -/
def skip (word : String) (ts : List Token) : Option (List Token) := skipChars word.toList ts

/-- Reads the first of some words that stands there. -/
def readOneOf {α : Type} : List (String × α) → Reader α
  | [], _ => none
  | (word, a) :: rest, ts =>
    match skip word ts with
    | some ts => some (a, ts)
    | none => readOneOf rest ts

/-- Reads one or more items with commas between them. -/
def readMore {α : Type} (item : Reader α) : Nat → Reader (List α)
  | 0, _ => none
  | fuel + 1, ts => do
    let (a, ts) ← item ts
    match skip ", " ts with
    | none => some ([a], ts)
    | some ts => do
      let (rest, ts) ← readMore item fuel ts
      some (a :: rest, ts)

/-- Reads items with commas between them; there are none if the word that stands after them stands here. -/
def readItems {α : Type} (item : Reader α) (stop : String) (fuel : Nat) : Reader (List α) := fun ts =>
  if (skip stop ts).isSome then some ([], ts) else readMore item fuel ts

/-- Reads a clause that begins with a word; without the word there is none. -/
def readClause {α : Type} (word : String) (none : α) (content : Reader α) : Reader α := fun ts =>
  match skip word ts with
  | some ts => content ts
  | Option.none => some (none, ts)

/-! ## Expressions -/

/-- What an expression that is no column and no parameter begins with. -/
inductive Opening where
  | literal (value : Bool)
  | group
  | any
  | cast

def openings : List (String × Opening) :=
  [("true", .literal true), ("false", .literal false), ("(", .group), ("ANY(", .any), ("CAST(", .cast)]

/-- What stands between the parts of a group. -/
inductive Infix where
  | and
  | between
  | operator (o : Operator)

def infixes : List (String × Infix) :=
  (" AND ", .and) :: (" BETWEEN ", .between)
    :: [Operator.equals, .greater, .greaterOrEqual, .less, .lessOrEqual, .like].map fun o => (o.word, .operator o)

/-- The types of casts, each with the bracket that closes the cast: so none is the beginning of another. -/
def castTypes : List (String × CastType) :=
  [BaseType.text, .numeric, .boolean, .timestamptz, .uuid].flatMap fun type =>
    [CastType.base type, .array type].map fun t => (t.word ++ ")", t)

/-- Reads what follows the bracket that opens a group. -/
def readGroup (expression : Reader Expression) : Reader Expression := fun ts => do
  let (left, ts) ← expression ts
  let (word, ts) ← readOneOf infixes ts
  let (right, ts) ← expression ts
  match word with
  | .and => do
    let ts ← skip ")" ts
    some (.and left right, ts)
  | .operator o => do
    let ts ← skip ")" ts
    some (.binary left o right, ts)
  | .between => do
    let ts ← skip " AND " ts
    let (high, ts) ← expression ts
    let ts ← skip ")" ts
    some (.between left right high, ts)

/-- Reads the arguments of `ANY`. -/
def readAny (expression : Reader Expression) (fuel : Nat) : Reader Expression := fun ts => do
  let (arguments, ts) ← readItems expression ")" fuel ts
  let ts ← skip ")" ts
  some (.any arguments, ts)

/-- Reads what follows the bracket of a cast. -/
def readCast (expression : Reader Expression) : Reader Expression := fun ts => do
  let (subject, ts) ← expression ts
  let ts ← skip " AS " ts
  let (type, ts) ← readOneOf castTypes ts
  some (.cast subject type, ts)

/-- Reads an expression. -/
def readExpression : Nat → Reader Expression
  | 0, _ => none
  | _ + 1, .quoted table :: .char '.' :: .quoted name :: ts => some (.column table name, ts)
  | _ + 1, .value v :: ts => some (.parameter v, ts)
  | fuel + 1, ts => do
    let (opening, ts) ← readOneOf openings ts
    match opening with
    | .literal b => some (.boolean b, ts)
    | .group => readGroup (readExpression fuel) ts
    | .any => readAny (readExpression fuel) fuel ts
    | .cast => readCast (readExpression fuel) ts

/-! ## Clauses -/

/-- Reads a table and its alias. -/
def readTable : Reader (String × String)
  | .quoted table :: ts => do
    let ts ← skip " AS " ts
    match ts with
    | .quoted tableAlias :: ts => some ((table, tableAlias), ts)
    | _ => none
  | _ => none

def joinWords : List (String × Contract.JoinKind) := [(joinWord .inner, .inner), (joinWord .left, .left)]

/-- Reads the joins that follow a table. -/
def readJoins (condition : Reader Expression) : Nat → Reader (List Join)
  | 0, ts => some ([], ts)
  | fuel + 1, ts =>
    match readOneOf joinWords ts with
    | none => some ([], ts)
    | some (kind, ts) => do
      let ((table, tableAlias), ts) ← readTable ts
      let ts ← skip " ON " ts
      let (condition', ts) ← condition ts
      let (rest, ts) ← readJoins condition fuel ts
      some (⟨kind, table, tableAlias, condition'⟩ :: rest, ts)

def directionWords : List (String × Direction) :=
  [(Direction.word .ascending, .ascending), (Direction.word .descending, .descending)]

/-- Reads a key of an order. -/
def readKey (expression : Reader Expression) : Reader OrderKey := fun ts => do
  let (subject, ts) ← expression ts
  let (direction, ts) ← readOneOf directionWords ts
  some (⟨subject, direction⟩, ts)

/-- The digits at the front of some tokens. -/
def digitsOf : List Token → List Char × List Token
  | .char c :: ts => if c.isDigit then (c :: (digitsOf ts).1, (digitsOf ts).2) else ([], .char c :: ts)
  | ts => ([], ts)

/-- Reads a number. -/
def readNumber : Reader Nat := fun ts =>
  match digitsOf ts with
  | ([], _) => none
  | (d :: ds, ts) => some (Nat.ofDigitChars 10 (d :: ds) 0, ts)

/-! ## Statements -/

/-- Reads the tokens of a `SELECT`, all of them, with some fuel for its expressions and its lists. -/
def readSelectWith (fuel : Nat) (ts : List Token) : Option Select := do
  let ts ← skip "SELECT " ts
  let (columns, ts) ← readItems (readExpression fuel) " " fuel ts
  let ts ← skip " FROM " ts
  let ((table, tableAlias), ts) ← readTable ts
  let (joins, ts) ← readJoins (readExpression fuel) fuel ts
  let (condition, ts) ← readClause " WHERE " (.boolean true) (readExpression fuel) ts
  let (order, ts) ← readClause " ORDER BY " [] (readMore (readKey (readExpression fuel)) fuel) ts
  let (limit, ts) ← readClause " LIMIT " none (fun ts => (readNumber ts).map fun (n, ts) => (some n, ts)) ts
  match ts with
  | [] => some { columns, table, tableAlias, joins, condition, order, limit }
  | _ => none

/-- Reads the tokens of a `SELECT`. -/
def readSelect (ts : List Token) : Option Select := readSelectWith ts.length ts

/-- The syntax tree of a statement. -/
def parse (s : Statement) : Option Select := (tokens s).bind readSelect

end QueryGate.Statement
