import QueryGate.Json.Value
import QueryGate.Number.Reading
import QueryGate.Text.Blank
/-!
The row limit of a plan. Whatever a plan gives is read as a number; unusable numbers mean the default, and the
others are rounded up to a whole number between one and the greatest limit.
-/
set_option autoImplicit false

namespace QueryGate.Plan

open Json Number

/-- The limit of a plan that has none, or none that can be used. -/
def defaultLimit : Nat := 5

/-- The greatest limit. -/
def maxLimit : Nat := 30

/-- The number in a text; a blank text is zero. -/
def numberOfText (text : String) : Binary64 :=
  if Text.isBlankText text then .zero else (Number.ofText? (Text.trim text)).getD .nan

/-- The number in a list: an empty one is zero, and a single item counts as itself unless it is a truth value or an
object. -/
def numberOfItems : List Value → Binary64
  | [] => .zero
  | [.null] => .zero
  | [.number n] => n.toBinary64
  | [.string text] => numberOfText text
  | [.list items] => numberOfItems items
  | _ => .nan

/-- The number that a plan asks for as its limit. -/
def requestedLimit : Option Value → Binary64
  | none => .zero
  | some .null => .zero
  | some (.number n) => n.toBinary64
  | some (.string text) => numberOfText text
  | some (.boolean b) => .ofNat (if b then 1 else 0)
  | some (.list items) => numberOfItems items
  | some (.object _) => .nan

/-- The limit for a requested number: the least whole number that is not below it, up to the greatest limit. -/
def limitOfNumber : Binary64 → Nat
  | .nan => defaultLimit
  | .infinity _ => defaultLimit
  | .finite negative mantissa exponent =>
    if negative ∨ mantissa = 0 then defaultLimit
    else
      let (num, den) := Binary64.ratio mantissa exponent
      -- the number is a fraction here, so nothing is lost where it is rounded up
      if maxLimit * den < num then maxLimit else (num + den - 1) / den

/-- The limit of a plan. -/
def clampLimit (limit : Option Value) : Nat := limitOfNumber (requestedLimit limit)

end QueryGate.Plan
