import QueryGate.Proofs.Meaning.Database
import QueryGate.Plan.Validate
/-!
What an accepted plan means on a database, without a statement. A row of the base resource is extended along the
relations that are joined, and its parts are known under the names of these relations. Nothing here knows of aliases,
of columns or of expressions.
-/
set_option autoImplicit false

namespace QueryGate.Meaning

open Json Plan

variable {V : Type}

/-! ## Values of fields -/

namespace Database

variable (db : Database V)

/-- A value as one of the semantic type of a field. -/
def ofFieldType : Contract.FieldType → V → V
  | .text => db.cast .text
  | .number => db.cast .numeric
  | .boolean => db.cast .boolean
  | .timestamp => db.cast .timestamptz
  | .identifier => db.cast .uuid

/-- The value of a filter as one of the type of its field; null stays null. -/
def operand (type : Contract.FieldType) : Value → Option V
  | .null => none
  | .string text => some (db.ofFieldType type (db.text text))
  | .list items => some (db.ofFieldType type (db.pack (items.map fun item => (Guard.boundText item).map db.text)))
  | v => some (db.ofFieldType type (db.text v.compact))

/-- The value of a filter as an item among others: a list inside a list counts as its text. -/
def item (type : Contract.FieldType) (v : Value) : Option V :=
  (Guard.boundText v).map fun text => db.ofFieldType type (db.text text)

/-- The text that is searched for: a string as it is, anything else as its compact text. -/
def searchText : Value → String
  | .string text => text
  | v => v.compact

/-- A pattern, as a value. -/
def pattern (text : String) : Option V := some (db.text text)

/-- Whether the value of a field stands in a comparison to the value of a filter. -/
def holds (type : Contract.FieldType) (x : Option V) (v : Value) : Comparison → Truth
  | .eq => db.compareValues .equals x (db.operand type v)
  | .gt => db.compareValues .greater x (db.operand type v)
  | .lt => db.compareValues .less x (db.operand type v)
  | .gte => db.compareValues .greaterOrEqual x (db.operand type v)
  | .lte => db.compareValues .lessOrEqual x (db.operand type v)
  | .contains => db.compareValues .like x (db.pattern ("%" ++ searchText v ++ "%"))
  | .startsWith => db.compareValues .like x (db.pattern (searchText v ++ "%"))
  | .between =>
    match v with
    | .list [low, high] =>
      (db.compareValues .greaterOrEqual x (db.operand type low)).and
        (db.compareValues .lessOrEqual x (db.operand type high))
    | _ => .unknown
  | .isIn =>
    match v with
    | .list items => .any (items.map fun v => db.compareValues .equals x (db.item type v))
    | v => db.compareValues .equals x (db.item type v)

end Database

/-! ## Rows -/

/-- A row of the base resource, and the rows to which it is extended under the names of their relations. -/
structure PlanRow (V : Type) where
  base : Row V
  related : List (String × Row V)

namespace PlanRow

/-- What stands in the field of a reference. -/
def read (r : PlanRow V) (f : FieldRef) : Option V :=
  match f.relation with
  | none => r.base f.field
  | some relation => (r.related.lookup relation).bind fun row => row f.field

/-- The row extended along one more relation. -/
def extend (r : PlanRow V) (relation : String) (row : Row V) : PlanRow V :=
  { r with related := r.related ++ [(relation, row)] }

end PlanRow

/-- A base row extended along a join to the rows of the target in whose field the value of its own field stands. -/
def extensions (db : Database V) (targets : List (Row V)) (j : ValidJoin) (r : PlanRow V) : List (PlanRow V) :=
  let isMatch := fun row : Row V => db.compareValues .equals (r.base j.localField) (row j.targetField) = .yes
  (partners j.kind targets fun row => isMatch row).map (r.extend j.relation)

/-- Rows extended along a join to a declared resource. -/
def extendAlong (c : Contract) (db : Database V) (rows : List (PlanRow V)) (j : ValidJoin) :
    Option (List (PlanRow V)) :=
  (c.resource? j.targetResource).map fun target => rows.flatMap (extensions db (db.rows target.view) j)

/-! ## Plans -/

/-- Whether a filter of a plan holds on a row. A filter on a field that has no type holds on none. -/
def filterHolds (c : Contract) (base : Contract.ResourceInfo) (p : ValidPlan) (db : Database V) (r : PlanRow V)
    (q : Predicate) : Bool :=
  match (resourceOf c base p.joins q.field).bind fun info => info.fields.get? q.field.field with
  | some field => db.holds field.type (r.read q.field) q.value q.comparison = .yes
  | none => false

/-- The order of a plan: its own keys. A plan that has none starts with the greatest discounts, if its base has them and
some filter on a field of that name asks for more than a value. -/
def sortKeys (base : Contract.ResourceInfo) (p : ValidPlan) : List SortKey :=
  let asksForMore := p.filters.any fun q => q.field.field = "discount" && (q.comparison = .gt || q.comparison = .gte)
  match p.sort with
  | [] => if base.hasField "discount" && asksForMore then [⟨⟨none, "discount"⟩, .desc⟩] else []
  | keys => keys

/-- How two rows compare by a key of a plan. -/
def sortOrder (db : Database V) (k : SortKey) (a b : PlanRow V) : Ordering :=
  match k.direction with
  | .asc => db.rank (a.read k.field) (b.read k.field)
  | .desc => (db.rank (a.read k.field) (b.read k.field)).swap

/-- The rows that a plan asks for; none if a resource of it is not declared. -/
def planRows (c : Contract) (db : Database V) (p : ValidPlan) : Option (List (List (Option V))) := do
  let base ← c.resource? p.resource
  let rows ← p.joins.foldlM (extendAlong c db) ((db.rows base.view).map fun row => ⟨row, []⟩)
  let kept := rows.filter fun r => p.filters.all (filterHolds c base p db r)
  some (((sortBy ((sortKeys base p).map (sortOrder db)) kept).take p.limit).map fun r => p.select.map r.read)

end QueryGate.Meaning
