import QueryGate.Contract.Basic
import QueryGate.Plan.FieldRef
/-!
The aliases that a statement uses: one for the base resource, which is always the same, and one for each relation.
Both kinds stand in one table under their names.
-/
set_option autoImplicit false

namespace QueryGate.Compile

open Plan

/-- Aliases under the names of resources and relations. -/
structure AliasMap where
  entries : NameTable String

namespace AliasMap

/-- The base resource has the base alias. -/
def ofBase (base : String) : AliasMap := ⟨NameTable.empty.assign base Contract.baseAlias⟩

/-- Enters the alias of a relation; the last alias of a name counts. -/
def insert (m : AliasMap) (relation tableAlias : String) : AliasMap := ⟨m.entries.assign relation tableAlias⟩

/-- The alias under a name. -/
def get? (m : AliasMap) (name : String) : Option String := m.entries.get? name

/-- Whether some name has this alias. -/
def containsAlias (m : AliasMap) (tableAlias : String) : Bool := m.entries.entries.any fun e => e.2 = tableAlias

/-- The alias that a field is read from; a relation without an alias falls back to the base. -/
def aliasFor (m : AliasMap) (f : FieldRef) : String :=
  match f.relation with
  | none => Contract.baseAlias
  | some relation => (m.get? relation).getD Contract.baseAlias

end AliasMap

end QueryGate.Compile
