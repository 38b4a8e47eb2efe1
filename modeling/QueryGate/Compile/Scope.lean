import QueryGate.Compile.AliasMap
import QueryGate.Plan.Validate
import QueryGate.Statement.Select
/-!
What a plan is compiled in: the contract, the base resource, and the aliases of the statement.
-/
set_option autoImplicit false

namespace QueryGate.Compile

open Plan

/-- The scope of one plan. -/
structure Scope where
  contract : Contract
  plan : ValidPlan
  base : Contract.ResourceInfo
  aliases : AliasMap

namespace Scope

/-- The scope of a plan before its joins are known. -/
def ofPlan (contract : Contract) (plan : ValidPlan) (base : Contract.ResourceInfo) : Scope :=
  ⟨contract, plan, base, .ofBase plan.resource⟩

/-- The scope with the alias of one more join. -/
def enter (s : Scope) (join : ValidJoin) : Scope := { s with aliases := s.aliases.insert join.relation join.tableAlias }

/-- What the contract says about the field of a reference. -/
def field? (s : Scope) (f : FieldRef) : Option Contract.FieldInfo :=
  (resourceOf s.contract s.base s.plan.joins f).bind fun info => info.fields.get? f.field

/-- The column of a reference. -/
def column (s : Scope) (f : FieldRef) : Statement.Expression := .column (s.aliases.aliasFor f) f.field

end Scope

end QueryGate.Compile
