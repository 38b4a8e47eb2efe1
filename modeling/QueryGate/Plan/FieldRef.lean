/-!
References to fields: `field` means a field of the base resource, `Relation.field` one of the target of a relation.
-/
set_option autoImplicit false

namespace QueryGate.Plan

/-- A reference to a field. -/
structure FieldRef where
  relation : Option String
  field : String
deriving DecidableEq, Repr

namespace FieldRef

/-- Reads a reference. Exactly one dot separates a relation from a field, and nothing before it means the base
resource; with no dot or several, the whole text is the name of a field. -/
def ofText (text : String) : FieldRef :=
  let cs := text.toList
  if cs.count '.' = 1 then
    let relation := cs.takeWhile (· ≠ '.')
    let field := (cs.dropWhile (· ≠ '.')).drop 1
    ⟨if relation.isEmpty then none else some (String.ofList relation), String.ofList field⟩
  else ⟨none, text⟩

/-- The text of a reference. -/
def toText (r : FieldRef) : String :=
  match r.relation with
  | none => r.field
  | some relation => relation ++ "." ++ r.field

end FieldRef

end QueryGate.Plan
