import QueryGate.Compile.Condition
import QueryGate.Statement.Render
/-!
From a plan to its statement. The same plan always gives the same statement and parameters.
-/
set_option autoImplicit false

namespace QueryGate.Compile

open Json Plan Statement

/-- The join of a statement along a join of the plan. -/
def joinClause (catalog : Catalog) (j : ValidJoin) : Except PlanError Join := do
  let target ← catalog.lookup j.targetResource
  .ok ⟨j.kind, target.view, j.tableAlias,
    .binary (.column Contract.baseAlias j.localField) .equals (.column j.tableAlias j.targetField)⟩

/-- The direction of a key in a statement. -/
def directionOf : Plan.Direction → Statement.Direction
  | .asc => .ascending
  | .desc => .descending

/-- The field that orders the rows of a plan which bounds it from below and has no order of its own. -/
def discountField : String := "discount"

/-- Whether the plan bounds a discount from below and its base resource has one. -/
def boundsDiscount (s : Scope) : Bool :=
  s.base.hasField discountField
    && s.plan.filters.any fun p => p.field.field = discountField && (p.comparison = .gt || p.comparison = .gte)

/-- The order of a statement: the keys of the plan, or the greatest discounts first where the plan asks for no order
and bounds a discount from below. -/
def order (s : Scope) : List OrderKey :=
  match s.plan.sort with
  | [] => if boundsDiscount s then [⟨s.column ⟨none, discountField⟩, .descending⟩] else []
  | k :: ks => (k :: ks).map fun key => ⟨s.column key.field, directionOf key.direction⟩

/-- The statement of a plan. -/
def compilePlan (catalog : Catalog) (plan : ValidPlan) : Except PlanError Query := do
  let base ← catalog.lookup plan.resource
  let joins ← plan.joins.mapM (joinClause catalog)
  let scope := plan.joins.foldl Scope.enter (.ofPlan catalog.contract plan base)
  .ok ⟨plan.resource, {
    columns := plan.select.map scope.column
    table := base.view
    tableAlias := Contract.baseAlias
    joins
    condition := condition scope
    order := order scope
    limit := some plan.limit }⟩

/-- A plan as it is received, checked and compiled. -/
def compileRaw (catalog : Catalog) (raw : RawPlan) : Except PlanError (ValidPlan × Query) := do
  let plan ← validate catalog raw
  let query ← compilePlan catalog plan
  .ok (plan, query)

/-- The plan in a JSON value, checked and compiled. -/
def compileValue (catalog : Catalog) (v : Value) : Except PlanError (ValidPlan × Query) :=
  match RawPlan.ofValue v with
  | .error reason => .error (.notAnObject reason)
  | .ok raw => compileRaw catalog raw

/-! ## As documents -/

/-- The document of a statement. -/
def statementTree (s : Statement) : Tree :=
  .object [("statement", .string s.text), ("parameters", .list (s.parameters.map Value.toTree))]

end QueryGate.Compile
