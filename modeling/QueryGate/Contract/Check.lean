import QueryGate.Contract.Basic
import QueryGate.Text.Blank
/-!
Inner consistency of a contract: every name that it refers to is declared, and within one resource the aliases that
statements use are distinct. All violations are found, in the order of declaration.
-/
set_option autoImplicit false

namespace QueryGate.Contract

/-- One reference that leads nowhere, or one name that is used twice. -/
inductive Violation where
  | emptyView (resource : String)
  | unknownDefaultField (resource field : String)
  | unknownLocalField (resource relation field : String)
  | unknownTarget (resource relation target : String)
  | unknownTargetField (relation target field : String)
  | repeatedAlias (resource tableAlias : String)
deriving DecidableEq, Repr

/-- The wording of a violation. -/
def Violation.message : Violation → String
  | emptyView resource => "resource '" ++ resource ++ "' has an empty view name"
  | unknownDefaultField resource field =>
    "default select of '" ++ resource ++ "' names unknown field '" ++ field ++ "'"
  | unknownLocalField resource relation field =>
    "relation '" ++ relation ++ "' on '" ++ resource ++ "' uses unknown local field '" ++ field ++ "'"
  | unknownTarget resource relation target =>
    "relation '" ++ relation ++ "' on '" ++ resource ++ "' targets unknown resource '" ++ target ++ "'"
  | unknownTargetField relation target field =>
    "relation '" ++ relation ++ "' targets unknown field '" ++ field ++ "' on '" ++ target ++ "'"
  | repeatedAlias resource tableAlias =>
    "alias '" ++ tableAlias ++ "' is used more than once in the relations of '" ++ resource ++ "'"

/-- The wording of all violations together. -/
def violationsMessage (vs : List Violation) : String :=
  "invalid contract: " ++ String.intercalate "; " (vs.map Violation.message)

/-- The violation of the view name, if there is one. -/
def viewViolations (name : String) (r : ResourceInfo) : List Violation :=
  if Text.isBlankText r.view then [.emptyView name] else []

/-- The default fields that are not declared, with their repetitions. -/
def defaultViolations (name : String) (r : ResourceInfo) : List Violation :=
  (r.defaultSelect.filter fun f => !r.hasField f).map (.unknownDefaultField name)

/-- The violations of the end points of a relation: its local field, and its target or the field there. -/
def endpointViolations (c : Contract) (name : String) (r : ResourceInfo) (relation : String)
    (info : RelationInfo) : List Violation :=
  (if r.hasField info.localField then [] else [.unknownLocalField name relation info.localField])
    ++ match c.resource? info.targetResource with
      | none => [.unknownTarget name relation info.targetResource]
      | some target =>
        if target.hasField info.targetField then []
        else [.unknownTargetField relation info.targetResource info.targetField]

/-- The violations of relations in their order; `taken` holds the aliases that are in use already. -/
def relationViolations (c : Contract) (name : String) (r : ResourceInfo) (taken : List String) :
    List (String × RelationInfo) → List Violation
  | [] => []
  | (relation, info) :: rest =>
    endpointViolations c name r relation info
      ++ (if info.tableAlias ∈ taken then [.repeatedAlias name info.tableAlias] else [])
      ++ relationViolations c name r (info.tableAlias :: taken) rest

/-- The violations of one resource. -/
def resourceViolations (c : Contract) (name : String) (r : ResourceInfo) : List Violation :=
  viewViolations name r ++ defaultViolations name r ++ relationViolations c name r [baseAlias] r.relations.entries

/-- All violations of a contract. -/
def violations (c : Contract) : List Violation :=
  c.resources.entries.flatMap fun (name, r) => resourceViolations c name r

/-- A contract without violations passes. -/
def check (c : Contract) : Except (List Violation) Unit :=
  match violations c with
  | [] => .ok ()
  | vs => .error vs

end QueryGate.Contract
