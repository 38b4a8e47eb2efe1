import QueryGate.Compile.Scope
/-!
Filters as conditions. Values never enter the text: each becomes a parameter that is cast to the type of the field,
or a pattern that is compared as text.
-/
set_option autoImplicit false

namespace QueryGate.Compile

open Json Plan Statement

/-- The database type as which the values of a field are compared. -/
def baseTypeOf : Contract.FieldType → BaseType
  | .text => .text
  | .number => .numeric
  | .boolean => .boolean
  | .timestamp => .timestamptz
  | .identifier => .uuid

/-- A value as an operand of the field's type. -/
def scalarOperand (type : Contract.FieldType) (value : Value) : Expression :=
  .cast (.parameter value) (.base (baseTypeOf type))

/-- The items of a value; a value that is no list is the only item. -/
def itemsOf : Value → List Value
  | .list items => items
  | v => [v]

/-- A value as an array of the field's type. -/
def arrayOperand (type : Contract.FieldType) (value : Value) : Expression :=
  .cast (.parameter (.list (itemsOf value))) (.array (baseTypeOf type))

/-- The ends of a range. What is no pair has null at both ends, which matches nothing. -/
def rangeBounds : Value → Value × Value
  | .list [low, high] => (low, high)
  | _ => (.null, .null)

/-- A value as text in a pattern: a string as it is, anything else as its compact text. -/
def patternText : Value → String
  | .string text => text
  | v => v.compact

/-- A pattern operand: the value with something before and after it. -/
def patternOperand (before after : String) (value : Value) : Expression :=
  .parameter (.string (before ++ patternText value ++ after))

/-- The condition of a comparison between a column of a type and a value. -/
def comparisonCondition (column : Expression) (type : Contract.FieldType) (value : Value) : Comparison → Expression
  | .eq => .binary column .equals (scalarOperand type value)
  | .gt => .binary column .greater (scalarOperand type value)
  | .lt => .binary column .less (scalarOperand type value)
  | .gte => .binary column .greaterOrEqual (scalarOperand type value)
  | .lte => .binary column .lessOrEqual (scalarOperand type value)
  | .contains => .binary column .like (patternOperand "%" "%" value)
  | .startsWith => .binary column .like (patternOperand "" "%" value)
  | .between => .between column (scalarOperand type (rangeBounds value).1) (scalarOperand type (rangeBounds value).2)
  | .isIn => .binary column .equals (.any [arrayOperand type value])

/-- The type as which a field is compared; a field that is not declared is compared as text. -/
def typeOf (s : Scope) (f : FieldRef) : Contract.FieldType := ((s.field? f).map (·.type)).getD .text

/-- The condition of a filter. -/
def predicateCondition (s : Scope) (p : Predicate) : Expression :=
  comparisonCondition (s.column p.field) (typeOf s p.field) p.value p.comparison

/-- The condition of all filters of the plan. -/
def condition (s : Scope) : Expression := .conjunction (s.plan.filters.map (predicateCondition s))

end QueryGate.Compile
