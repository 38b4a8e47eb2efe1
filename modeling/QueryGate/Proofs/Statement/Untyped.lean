import QueryGate.Proofs.Statement.Conjunction
/-!
Expressions without the types of their casts. Which type a value is cast to is the only thing in a condition that is
looked up in a contract, so two conditions that are the same without these types come from the same filters. Whether a
cast is one to a value or to an array stays: that is a matter of the comparison.
-/
set_option autoImplicit false

namespace QueryGate.Statement

/-- The target of a cast with text in the place of its base type. -/
def CastType.untyped : CastType → CastType
  | .base _ => .base .text
  | .array _ => .array .text

mutual

/-- The expression with text in the place of the base type of every cast. -/
def Expression.untyped : Expression → Expression
  | .column table name => .column table name
  | .boolean b => .boolean b
  | .parameter value => .parameter value
  | .and left right => .and left.untyped right.untyped
  | .binary left operator right => .binary left.untyped operator right.untyped
  | .between subject low high => .between subject.untyped low.untyped high.untyped
  | .any arguments => .any (Expression.untypedEach arguments)
  | .cast subject type => .cast subject.untyped type.untyped

/-- Each of some expressions with text in the place of the base type of every cast. -/
def Expression.untypedEach : List Expression → List Expression
  | [] => []
  | e :: rest => e.untyped :: Expression.untypedEach rest

end

/-- The types of a conjunction are those of its parts. -/
theorem untyped_conjunction (es : List Expression) :
    (Expression.conjunction es).untyped = .conjunction (es.map Expression.untyped) :=
  map_conjunction rfl (fun _ _ => rfl) es

end QueryGate.Statement
