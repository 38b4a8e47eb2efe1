import QueryGate.Json.Printer
/-!
How the parameters of a statement are handed to the database: as texts, which the statement casts.
-/
set_option autoImplicit false

namespace QueryGate.Guard

open Json

/-- A parameter as the database receives it; a missing text is null. -/
inductive Bound where
  | text (value : Option String)
  | array (items : List (Option String))
deriving DecidableEq, Repr

/-- A value as a text: null stays null, a string is its content, anything else its compact text. -/
def boundText : Value → Option String
  | .null => none
  | .string s => some s
  | v => some v.compact

/-- A value as a parameter: a list as an array of texts, anything else as one text. -/
def Bound.ofValue : Value → Bound
  | .list items => .array (items.map boundText)
  | v => .text (boundText v)

end QueryGate.Guard
