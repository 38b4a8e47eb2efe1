import QueryGate.Proofs.Statement.Conjunction
/-!
The columns that a statement refers to. A reference is an alias and a name; which table the alias stands for is a matter
of the statement around it.
-/
set_option autoImplicit false

namespace QueryGate.Statement

mutual

/-- The columns that an expression refers to, from left to right. -/
def Expression.columnRefs : Expression → List (String × String)
  | .column table name => [(table, name)]
  | .boolean _ => []
  | .parameter _ => []
  | .and left right => left.columnRefs ++ right.columnRefs
  | .binary left _ right => left.columnRefs ++ right.columnRefs
  | .between subject low high => subject.columnRefs ++ low.columnRefs ++ high.columnRefs
  | .any arguments => Expression.columnRefsOfAll arguments
  | .cast subject _ => subject.columnRefs

/-- The columns that expressions refer to. -/
def Expression.columnRefsOfAll : List Expression → List (String × String)
  | [] => []
  | e :: rest => e.columnRefs ++ Expression.columnRefsOfAll rest

end

/-- The columns that a statement refers to in its select list, its condition and its order. -/
def Select.columnRefs (q : Select) : List (String × String) :=
  q.columns.flatMap Expression.columnRefs ++ q.condition.columnRefs ++ q.order.flatMap fun k => k.subject.columnRefs

/-- The columns that the conditions of the joins of a statement refer to. -/
def Select.joinColumnRefs (q : Select) : List (String × String) := q.joins.flatMap fun j => j.condition.columnRefs

/-- The aliases of a statement: of its table, and of the tables that it joins. -/
def Select.aliases (q : Select) : List String := q.tableAlias :: q.joins.map (·.tableAlias)

/-- A conjunction refers to the columns that its parts refer to. -/
theorem columnRefs_conjunction (es : List Expression) :
    (Expression.conjunction es).columnRefs = es.flatMap Expression.columnRefs :=
  flatMap_conjunction (fun _ _ => rfl) rfl es

end QueryGate.Statement
