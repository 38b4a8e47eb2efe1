import QueryGate.Plan.Index
import QueryGate.Plan.Raw
/-!
A contract with the index of its names, and the reasons for which a plan can fail against it.
-/
set_option autoImplicit false

namespace QueryGate.Plan

/-- Why a plan has no statement. -/
inductive PlanError where
  | resourceNotAllowed (got : String) (allowed : List String)
  | emptySelection
  | notAnObject (reason : NotAnObject)
deriving DecidableEq, Repr

namespace PlanError

/-- The wording of an error. -/
def message : PlanError → String
  | resourceNotAllowed got allowed =>
    "resource '" ++ got ++ "' is not allowed, expected one of: " ++ String.intercalate "|" allowed
  | emptySelection => "no valid fields to select"
  | notAnObject reason => "invalid plan: expected a JSON object, got " ++ reason.describe

/-- Whether the caller should be asked to rephrase. -/
def needsClarification : PlanError → Bool
  | resourceNotAllowed .. => true
  | emptySelection => true
  | notAnObject _ => false

end PlanError

/-- A contract and the index of its names. -/
structure Catalog where
  contract : Contract
  index : Index

namespace Catalog

/-- The catalog of a contract. -/
def ofContract (c : Contract) : Catalog := ⟨c, .ofContract c⟩

/-- The canonical names in the order of declaration. -/
def allowed (c : Catalog) : List String := c.contract.resourceNames

/-- The error for a name that leads nowhere. -/
def notAllowed (c : Catalog) (name : String) : PlanError := .resourceNotAllowed name c.allowed

/-- The resource that a name leads to, with its canonical name. -/
def resolve (c : Catalog) (name : String) : Except PlanError (String × Contract.ResourceInfo) :=
  match (c.index.resolve name).bind fun canonical => (c.contract.resource? canonical).map (canonical, ·) with
  | some found => .ok found
  | none => .error (c.notAllowed name)

/-- The resource of a canonical name. -/
def lookup (c : Catalog) (name : String) : Except PlanError Contract.ResourceInfo :=
  match c.contract.resource? name with
  | some info => .ok info
  | none => .error (c.notAllowed name)

end Catalog

end QueryGate.Plan
