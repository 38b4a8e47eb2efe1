import QueryGate.Plan.Catalog
import QueryGate.Plan.Comparison
import QueryGate.Plan.FieldRef
import QueryGate.Plan.Limit
/-!
Plans checked against a contract. A plan fails if its resource leads nowhere or if none of its fields can be
selected; everything else that does not fit the contract is dropped or replaced by a default.
-/
set_option autoImplicit false

namespace QueryGate.Plan

open Json

/-- A join along a relation of the base resource. Fields of the target are qualified by the relation's name. -/
structure ValidJoin where
  relation : String
  tableAlias : String
  kind : Contract.JoinKind
  localField : String
  targetResource : String
  targetField : String
deriving DecidableEq, Repr

/-- A filter on a field. -/
structure Predicate where
  field : FieldRef
  comparison : Comparison
  value : Value

/-- A key of the order. -/
structure SortKey where
  field : FieldRef
  direction : Direction
deriving DecidableEq, Repr

/-- A plan whose references all lead somewhere in the contract. -/
structure ValidPlan where
  resource : String
  joins : List ValidJoin
  select : List FieldRef
  filters : List Predicate
  sort : List SortKey
  limit : Nat

/-- Only so many join requests of a plan are considered. -/
def maxJoins : Nat := 2

/-- The join along a relation under its name. -/
def joinAlong (name : String) (relation : Contract.RelationInfo) : ValidJoin :=
  ⟨name, relation.tableAlias, relation.kind, relation.localField, relation.targetResource, relation.targetField⟩

/-- The join that a request leads to: its name is that of a relation of the base resource to a declared target. -/
def joinOf (c : Contract) (base : Contract.ResourceInfo) (request : Option String) : Option ValidJoin := do
  let name ← request
  let relation ← base.relations.get? name
  if (c.resource? relation.targetResource).isSome then some (joinAlong name relation) else none

/-- Adds a join unless its relation is joined already. -/
def addJoin (joins : List ValidJoin) (join : ValidJoin) : List ValidJoin :=
  if joins.any (fun j => j.relation = join.relation) then joins else joins ++ [join]

/-- The joins of a plan in the order of the requests. -/
def validJoins (c : Contract) (base : Contract.ResourceInfo) (requests : List (Option String)) : List ValidJoin :=
  ((requests.take maxJoins).filterMap (joinOf c base)).foldl addJoin []

/-- The resource that a reference reads from: the base, or the target of a join. -/
def resourceOf (c : Contract) (base : Contract.ResourceInfo) (joins : List ValidJoin) (f : FieldRef) :
    Option Contract.ResourceInfo :=
  match f.relation with
  | none => some base
  | some relation =>
    (joins.find? fun j => j.relation = relation).bind fun j => c.resource? j.targetResource

/-- Whether a reference leads to a declared field. -/
def isValidRef (c : Contract) (base : Contract.ResourceInfo) (joins : List ValidJoin) (f : FieldRef) : Bool :=
  match resourceOf c base joins f with
  | some info => info.hasField f.field
  | none => false

/-- A filter whose field is valid. -/
def validPredicate (valid : FieldRef → Bool) (p : RawPredicate) : Option Predicate :=
  let field := FieldRef.ofText p.field
  if valid field then some ⟨field, .ofText p.op, p.value⟩ else none

/-- A key of the order whose field is valid. -/
def validSortKey (valid : FieldRef → Bool) (k : RawSortKey) : Option SortKey :=
  let field := FieldRef.ofText k.field
  if valid field then some ⟨field, .ofText k.direction⟩ else none

/-- Checks a plan. -/
def validate (catalog : Catalog) (plan : RawPlan) : Except PlanError ValidPlan := do
  let (resource, base) ← catalog.resolve plan.resource
  let joins := validJoins catalog.contract base plan.joins
  let valid := isValidRef catalog.contract base joins
  let select := ((plan.select.getD base.defaultSelect).map FieldRef.ofText).filter valid
  if select.isEmpty then .error .emptySelection
  else
    .ok {
      resource
      joins
      select
      filters := plan.filters.filterMap (validPredicate valid)
      sort := plan.sort.filterMap (validSortKey valid)
      limit := clampLimit plan.limit }

/-! ## As documents -/

/-- The document of a join. -/
def ValidJoin.toTree (j : ValidJoin) : Tree :=
  .object [("relation", .string j.relation), ("alias", .string j.tableAlias), ("kind", .string j.kind.word),
    ("localField", .string j.localField), ("targetResource", .string j.targetResource),
    ("targetField", .string j.targetField)]

/-- The document of a filter. -/
def Predicate.toTree (p : Predicate) : Tree :=
  .object [("field", .string p.field.toText), ("op", .string p.comparison.word), ("value", p.value.toTree)]

/-- The document of a key of the order. -/
def SortKey.toTree (k : SortKey) : Tree :=
  .object [("field", .string k.field.toText), ("dir", .string k.direction.word)]

/-- The document of a plan. -/
def ValidPlan.toTree (p : ValidPlan) : Tree :=
  .object [("resource", .string p.resource), ("joins", .list (p.joins.map ValidJoin.toTree)),
    ("select", .list (p.select.map fun f => .string f.toText)), ("where", .list (p.filters.map Predicate.toTree)),
    ("sort", .list (p.sort.map SortKey.toTree)), ("limit", .number (.natural p.limit))]

end QueryGate.Plan
