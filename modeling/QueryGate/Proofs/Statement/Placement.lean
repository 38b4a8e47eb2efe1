import QueryGate.Proofs.Statement.Parts
/-!
How the parameters of a statement stand in it. A placeholder is cast to a type, or stands uncast as the pattern of an
`ILIKE`, or stands on its own elsewhere. The placements of a statement are listed in the order of its parameters, so the
placement at a position is that of the placeholder with the next number.
-/
set_option autoImplicit false

namespace QueryGate.Statement

/-- How a placeholder stands in a statement. -/
inductive Placement where
  | cast (type : CastType)
  /-- Uncast, on the right of `ILIKE`. -/
  | pattern
  | bare
deriving DecidableEq, Repr

/-- How an operand stands on the right of an operator. -/
def Placement.rightOf (operator : Operator) : Placement := if operator = .like then .pattern else .bare

mutual

/-- The parameters of an expression with their placements, where the expression itself stands in some way. -/
def Expression.placements (place : Placement) : Expression → List (Json.Value × Placement)
  | .column _ _ => []
  | .boolean _ => []
  | .parameter value => [(value, place)]
  | .and left right => left.placements .bare ++ right.placements .bare
  | .binary left operator right => left.placements .bare ++ right.placements (.rightOf operator)
  | .between subject low high => subject.placements .bare ++ low.placements .bare ++ high.placements .bare
  | .any arguments => Expression.placementsOfAll arguments
  | .cast subject type => subject.placements (.cast type)

/-- The parameters of expressions with their placements. -/
def Expression.placementsOfAll : List Expression → List (Json.Value × Placement)
  | [] => []
  | e :: rest => e.placements .bare ++ Expression.placementsOfAll rest

end

/-- The parameters of a statement with their placements. -/
def Select.placements (q : Select) : List (Json.Value × Placement) :=
  q.columns.flatMap (·.placements .bare) ++ q.joins.flatMap (·.condition.placements .bare)
    ++ q.condition.placements .bare ++ q.order.flatMap (·.subject.placements .bare)

theorem placementsOfAll_eq_flatMap (es : List Expression) :
    Expression.placementsOfAll es = es.flatMap (·.placements .bare) := by
  induction es with
  | nil => rfl
  | cons e rest ih => rw [Expression.placementsOfAll, List.flatMap_cons, ih]

/-- The placements of a conjunction are those of its parts. -/
theorem placements_conjunction (es : List Expression) :
    (Expression.conjunction es).placements .bare = es.flatMap (·.placements .bare) :=
  flatMap_conjunction (fun _ _ => rfl) rfl es

/-- The placements of an expression are those of its parameters, in their order. -/
theorem map_fst_placements (e : Expression) (place : Placement) :
    (e.placements place).map Prod.fst = e.parameters := by
  induction e generalizing place with
  | column table name => rfl
  | boolean value => rfl
  | parameter value => rfl
  | and left right hleft hright =>
      simp [Expression.placements, Expression.parameters, Expression.pieces, hleft, hright]
  | binary left operator right hleft hright =>
      simp [Expression.placements, Expression.parameters, Expression.pieces, hleft, hright]
  | between subject low high hsubject hlow hhigh =>
      simp [Expression.placements, Expression.parameters, Expression.pieces, hsubject, hlow, hhigh]
  | any arguments harguments =>
      have hall : (arguments.flatMap (·.placements .bare)).map Prod.fst = arguments.flatMap Expression.parameters := by
        rw [List.map_flatMap]
        exact List.flatMap_congr fun e he => harguments e he .bare
      rw [Expression.placements, placementsOfAll_eq_flatMap, hall, Expression.parameters, Expression.pieces,
        piecesOfEach_eq_map]
      simp [parametersOf_expressions]
  | cast subject type hsubject =>
      simp [Expression.placements, Expression.parameters, Expression.pieces, hsubject]

/-- The placements of a statement are those of its parameters, in their order. -/
theorem Select.map_fst_placements (q : Select) : q.placements.map Prod.fst = (q.render .empty).parameters := by
  rw [parameters_render_eq, parametersOf_front, parametersOf_back, placements]
  simp only [List.map_append, List.map_flatMap, Statement.map_fst_placements]

end QueryGate.Statement
