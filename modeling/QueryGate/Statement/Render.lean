import QueryGate.Statement.Builder
import QueryGate.Statement.Select
/-!
The text of syntax trees. Compound expressions are parenthesised throughout, so the text needs no precedence; every
parameter becomes the next placeholder.
-/
set_option autoImplicit false

namespace QueryGate.Statement

/-- The name of a base type. -/
def BaseType.word : BaseType → String
  | .text => "text"
  | .numeric => "numeric"
  | .boolean => "boolean"
  | .timestamptz => "timestamptz"
  | .uuid => "uuid"

/-- The name of the target of a cast. -/
def CastType.word : CastType → String
  | .base type => type.word
  | .array type => type.word ++ "[]"

/-- An operator with the spaces around it. -/
def Operator.word : Operator → String
  | .equals => " = "
  | .greater => " > "
  | .greaterOrEqual => " >= "
  | .less => " < "
  | .lessOrEqual => " <= "
  | .like => " ILIKE "

/-- A direction after its key. -/
def Direction.word : Direction → String
  | .ascending => " ASC"
  | .descending => " DESC"

/-- The words before a joined table. -/
def joinWord : Contract.JoinKind → String
  | .inner => " INNER JOIN "
  | .left => " LEFT JOIN "

mutual

/-- Appends an expression. -/
def Expression.render : Expression → Statement → Statement
  | .column table name, s => ((s.identifier table).fixed ".").identifier name
  | .boolean b, s => s.fixed (if b then "true" else "false")
  | .parameter value, s => s.parameter value
  | .and left right, s => (right.render ((left.render (s.fixed "(")).fixed " AND ")).fixed ")"
  | .binary left operator right, s => (right.render ((left.render (s.fixed "(")).fixed operator.word)).fixed ")"
  | .between subject low high, s =>
    (high.render ((low.render ((subject.render (s.fixed "(")).fixed " BETWEEN ")).fixed " AND ")).fixed ")"
  | .any arguments, s => (Expression.renderList arguments (s.fixed "ANY(")).fixed ")"
  | .cast subject type, s => (((subject.render (s.fixed "CAST(")).fixed " AS ").fixed type.word).fixed ")"

/-- Appends expressions with commas between them. -/
def Expression.renderList : List Expression → Statement → Statement
  | [], s => s
  | [e], s => e.render s
  | e :: f :: rest, s => Expression.renderList (f :: rest) ((e.render s).fixed ", ")

end

/-- Whether an expression is the literal true. -/
def Expression.isTrue : Expression → Bool
  | .boolean b => b
  | _ => false

/-- Appends a joined table. -/
def Join.render (j : Join) (s : Statement) : Statement :=
  let joined := ((s.fixed (joinWord j.kind)).identifier j.table).fixed " AS "
  j.condition.render ((joined.identifier j.tableAlias).fixed " ON ")

/-- Appends the condition, unless it is the literal true. -/
def renderCondition (e : Expression) (s : Statement) : Statement :=
  if e.isTrue then s else e.render (s.fixed " WHERE ")

/-- Appends a key of an order. -/
def OrderKey.render (k : OrderKey) (s : Statement) : Statement := (k.subject.render s).fixed k.direction.word

/-- Appends the keys of an order with commas between them. -/
def renderKeys : List OrderKey → Statement → Statement
  | [], s => s
  | [k], s => k.render s
  | k :: l :: rest, s => renderKeys (l :: rest) ((k.render s).fixed ", ")

/-- Appends the order, if there is one. -/
def renderOrder (keys : List OrderKey) (s : Statement) : Statement :=
  match keys with
  | [] => s
  | k :: rest => renderKeys (k :: rest) (s.fixed " ORDER BY ")

/-- Appends the limit, if there is one. -/
def renderLimit (limit : Option Nat) (s : Statement) : Statement :=
  match limit with
  | none => s
  | some n => (s.fixed " LIMIT ").number n

/-- Appends a `SELECT`. -/
def Select.render (q : Select) (s : Statement) : Statement :=
  let s := Expression.renderList q.columns (s.fixed "SELECT ")
  let s := ((((s.fixed " ").fixed "FROM ").identifier q.table).fixed " AS ").identifier q.tableAlias
  let s := q.joins.foldl (fun s j => j.render s) s
  renderLimit q.limit (renderOrder q.order (renderCondition q.condition s))

/-- The statement of a query. -/
def Query.statement (q : Query) : Statement := q.select.render .empty

/-- The statement that asks how a query would be run. -/
def Query.explainStatement (q : Query) : Statement := q.select.render (Statement.empty.fixed "EXPLAIN ")

end QueryGate.Statement
