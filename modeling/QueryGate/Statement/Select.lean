import QueryGate.Contract.Basic
import QueryGate.Json.Value
/-!
Read-only statements as syntax trees. Only what a plan can ask for can be written down: one `SELECT` from a view
and views joined to it, a condition, an order and a limit.
-/
set_option autoImplicit false

namespace QueryGate.Statement

/-- The database types that values are cast to. -/
inductive BaseType where
  | text
  | numeric
  | boolean
  | timestamptz
  | uuid
deriving DecidableEq, Repr

/-- The target of a cast: a base type or arrays of it. -/
inductive CastType where
  | base (type : BaseType)
  | array (type : BaseType)
deriving DecidableEq, Repr

/-- An operator between two expressions. -/
inductive Operator where
  | equals
  | greater
  | greaterOrEqual
  | less
  | lessOrEqual
  | like
deriving DecidableEq, Repr

/-- A scalar expression. -/
inductive Expression where
  | column (table name : String)
  | boolean (value : Bool)
  /-- A value that the database is given beside the text. -/
  | parameter (value : Json.Value)
  | and (left right : Expression)
  | binary (left : Expression) (operator : Operator) (right : Expression)
  | between (subject low high : Expression)
  /-- `ANY` of its arguments, which stands on the right of a comparison. -/
  | any (arguments : List Expression)
  | cast (subject : Expression) (type : CastType)

/-- The expressions combined by `AND` from left to right; without any, the literal true. -/
def Expression.conjunction : List Expression → Expression
  | [] => .boolean true
  | e :: es => es.foldl .and e

/-- A table or view that is joined. -/
structure Join where
  kind : Contract.JoinKind
  table : String
  tableAlias : String
  condition : Expression

/-- The direction of an order. -/
inductive Direction where
  | ascending
  | descending
deriving DecidableEq, Repr

/-- A key of an order. -/
structure OrderKey where
  subject : Expression
  direction : Direction

/-- A `SELECT` statement. A condition that is the literal true is no condition. -/
structure Select where
  columns : List Expression
  table : String
  tableAlias : String
  joins : List Join
  condition : Expression
  order : List OrderKey
  limit : Option Nat

/-- A statement to be run, and the resource whose view it reads first. -/
structure Query where
  root : String
  select : Select

end QueryGate.Statement
