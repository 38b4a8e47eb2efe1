import QueryGate.NameTable
/-!
The contract: the resources that callers may query, each backed by a view, with the fields, the relations and the
default columns that plans may use.
-/
set_option autoImplicit false

namespace QueryGate.Contract

/-- What the values of a field mean. -/
inductive FieldType where
  | text
  | number
  | boolean
  | timestamp
  | identifier
deriving DecidableEq, Repr

/-- The word for a field type. -/
def FieldType.word : FieldType → String
  | .text => "text"
  | .number => "number"
  | .boolean => "boolean"
  | .timestamp => "timestamp"
  | .identifier => "identifier"

/-- A field of a resource. -/
structure FieldInfo where
  type : FieldType
  description : Option String
deriving DecidableEq, Repr

/-- How the rows of a relation's target are joined: only where there is one, or with empty columns otherwise. -/
inductive JoinKind where
  | inner
  | left
deriving DecidableEq, Repr

/-- The word for a join kind. -/
def JoinKind.word : JoinKind → String
  | .inner => "inner"
  | .left => "left"

/-- A relation from the resource that declares it to a target resource: rows belong together if the local field
equals the target field. The alias names the target's rows in statements. -/
structure RelationInfo where
  kind : JoinKind
  localField : String
  targetResource : String
  targetField : String
  tableAlias : String
deriving DecidableEq, Repr

/-- A resource. -/
structure ResourceInfo where
  view : String
  description : Option String
  /-- Further names that lead to this resource. -/
  synonyms : List String
  fields : NameTable FieldInfo
  /-- The fields that a plan gets if it asks for none. -/
  defaultSelect : List String
  filterable : Bool
  sortable : Bool
  relations : NameTable RelationInfo
deriving DecidableEq

/-- Whether a field is declared. -/
def ResourceInfo.hasField (r : ResourceInfo) (field : String) : Bool := r.fields.contains field

/-- The alias of the base resource in every statement. -/
def baseAlias : String := "t"

end QueryGate.Contract

namespace QueryGate

open Contract

/-- All resources that may be queried. -/
structure Contract where
  resources : NameTable ResourceInfo
deriving DecidableEq

namespace Contract

/-- The contract without resources. -/
def empty : Contract := ⟨.empty⟩

/-- A resource by its canonical name. -/
def resource? (c : Contract) (name : String) : Option ResourceInfo := c.resources.get? name

/-- The canonical names in the order of declaration. -/
def resourceNames (c : Contract) : List String := c.resources.names

/-- The names of the fields of a resource in alphabetical order; there are none if it is not declared. -/
def fieldsOf (c : Contract) (resource : String) : List String :=
  match c.resource? resource with
  | some info => info.fields.names.mergeSort (fun a b => decide (a ≤ b))
  | none => []

/-- The relations declared on a resource. -/
def relationsOf (c : Contract) (resource : String) : Option (NameTable RelationInfo) :=
  (c.resource? resource).map (·.relations)

/-- A relation declared on a resource. -/
def relation? (c : Contract) (owner name : String) : Option RelationInfo :=
  (c.relationsOf owner).bind (·.get? name)

end Contract

end QueryGate
