import QueryGate.Contract.Basic
/-!
The contract in prose, for whoever writes plans.
-/
set_option autoImplicit false

namespace QueryGate.Contract

/-- The word for a flag. -/
def yesNo (flag : Bool) : String := if flag then "yes" else "no"

/-- The line of a field. -/
def describeField (name : String) (info : FieldInfo) : String :=
  "  - " ++ name ++ " (" ++ info.type.word ++ ")"
    ++ (match info.description with
      | some text => ": " ++ text
      | none => "")
    ++ "\n"

/-- The line of a relation of a resource. -/
def describeRelation (owner name : String) (info : RelationInfo) : String :=
  "  - " ++ name ++ " (" ++ info.kind.word ++ "): " ++ owner ++ "." ++ info.localField ++ " = "
    ++ info.targetResource ++ "." ++ info.targetField ++ "\n"

/-- The paragraph of a resource. -/
def describeResource (name : String) (r : ResourceInfo) : String :=
  "RESOURCE " ++ name ++ " -> " ++ r.view ++ "\n"
    ++ (match r.description with
      | some text => "Description: " ++ text ++ "\n"
      | none => "")
    ++ "FIELDS:\n"
    ++ String.join (r.fields.entries.map fun (n, info) => describeField n info)
    ++ "Default Select: "
    ++ (if r.defaultSelect.isEmpty then "(none)" else String.intercalate ", " r.defaultSelect) ++ "\n"
    ++ "Filterable: " ++ yesNo r.filterable ++ " | Sortable: " ++ yesNo r.sortable ++ "\n"
    ++ (if r.relations.isEmpty then ""
      else "JOINS:\n" ++ String.join (r.relations.entries.map fun (n, info) => describeRelation name n info))
    ++ "\n"

/-- The whole contract in prose. -/
def describe (c : Contract) : String :=
  "SCHEMA (only these resources and fields may be used):\n\n"
    ++ String.join (c.resources.entries.map fun (name, r) => describeResource name r)
    ++ "Answer with a JSON query plan. Never write SQL.\n"

end QueryGate.Contract
