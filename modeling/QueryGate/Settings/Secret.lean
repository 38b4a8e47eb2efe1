import QueryGate.Json.Printer
import QueryGate.Json.Shape
/-!
Secrets: values that a configuration gives itself or takes from a variable of the environment.
-/
set_option autoImplicit false

namespace QueryGate.Settings

open Json

/-- A value, or the variable that holds it. -/
inductive Secret where
  | plain (value : String)
  | inVariable (name : String)
deriving DecidableEq, Repr

namespace Secret

/-- The variables that a secret is taken from. -/
def variableNames : Secret → List String
  | plain _ => []
  | inVariable name => [name]

/-- The secret in the members of an object: exactly one of them is the variable, and it is a text. -/
def ofMembers (members : List (String × Value)) : Option Secret :=
  match members.filter fun m => m.1 = "variable" with
  | [(_, .string name)] => some (.inVariable name)
  | _ => none

/-- The shape of a secret: a text, or an object that names a variable. The whole document is read before it is
judged. -/
def shape : Shape Secret := fun depth d =>
  let refused := Except.error (Complaint.unplaced (.noVariant "Secret"))
  match d with
  | .object start ms =>
    if depth ≤ 1 then .error (.placed (tooDeep start))
    else
      match ms.values (depth - 1) with
      | .error fault => .error (.placed fault)
      | .ok members =>
        match ofMembers members with
        | some secret => .ok secret
        | none => refused
  | _ =>
    match d.value depth with
    | .error fault => .error (.placed fault)
    | .ok (.string value) => .ok (.plain value)
    | .ok _ => refused

/-- The document of a secret. -/
def toTree : Secret → Tree
  | plain value => .string value
  | inVariable name => .object [("variable", .string name)]

end Secret

end QueryGate.Settings
