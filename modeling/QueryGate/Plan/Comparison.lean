import QueryGate.Text.Blank
import QueryGate.Text.LowerCase
/-!
The comparisons and the directions of order that a plan can name, and the spellings that lead to them.
-/
set_option autoImplicit false

namespace QueryGate.Plan

/-- How a predicate compares a field with its value. -/
inductive Comparison where
  | eq
  | gt
  | lt
  | gte
  | lte
  | contains
  | startsWith
  | between
  | isIn
deriving DecidableEq, Repr

/-- The word for a comparison. -/
def Comparison.word : Comparison → String
  | .eq => "eq"
  | .gt => "gt"
  | .lt => "lt"
  | .gte => "gte"
  | .lte => "lte"
  | .contains => "contains"
  | .startsWith => "startswith"
  | .between => "between"
  | .isIn => "in"

/-- The spellings of comparisons, in lower case. -/
def comparisonSpellings : List (String × Comparison) :=
  [("gt", .gt), (">", .gt), ("lt", .lt), ("<", .lt), ("gte", .gte), (">=", .gte), ("lte", .lte), ("<=", .lte),
    ("contains", .contains), ("startswith", .startsWith), ("starts_with", .startsWith), ("^", .startsWith),
    ("between", .between), ("in", .isIn)]

/-- The comparison that a text names, in any case; a text that names none means equality. -/
def Comparison.ofText (text : String) : Comparison :=
  (comparisonSpellings.lookup (Text.lower text)).getD .eq

/-- The direction of an order. -/
inductive Direction where
  | asc
  | desc
deriving DecidableEq, Repr

/-- The word for a direction. -/
def Direction.word : Direction → String
  | .asc => "asc"
  | .desc => "desc"

/-- The direction that a text names, in any case and with white space around it; anything else, and no text at all,
means ascending. -/
def Direction.ofText (text : Option String) : Direction :=
  match text with
  | none => .asc
  | some t =>
    let word := Text.lower (Text.trim t)
    if word = "desc" ∨ word = "descending" then .desc else .asc

end QueryGate.Plan
