import QueryGate.Proofs.Statement.Conjunction
/-!
Types of expressions. The columns of a statement have base types; a placeholder takes the type to which it is cast, and
without a cast it is a text. Values compare with values of their own type, or with any of an array of it, and only texts
compare with patterns.
-/
set_option autoImplicit false

namespace QueryGate.Statement

/-- What an expression can be: a value of a base type, an array of such values, any of the values of an array, or a
condition. -/
inductive ExpressionType where
  | base (type : BaseType)
  | array (type : BaseType)
  | anyOf (type : BaseType)
  | condition
deriving DecidableEq, Repr

/-- An expression is well typed where `columns` tells the types of columns. -/
inductive Expression.HasType (columns : String → String → BaseType → Prop) : Expression → ExpressionType → Prop where
  | column {table name : String} {type : BaseType} (known : columns table name type) :
    HasType columns (.column table name) (.base type)
  | boolean (b : Bool) : HasType columns (.boolean b) .condition
  | uncast (v : Json.Value) : HasType columns (.parameter v) (.base .text)
  | cast (v : Json.Value) (type : BaseType) : HasType columns (.cast (.parameter v) (.base type)) (.base type)
  | castArray (v : Json.Value) (type : BaseType) : HasType columns (.cast (.parameter v) (.array type)) (.array type)
  | any {e : Expression} {type : BaseType} (array : HasType columns e (.array type)) :
    HasType columns (.any [e]) (.anyOf type)
  | and {left right : Expression} (hleft : HasType columns left .condition)
    (hright : HasType columns right .condition) : HasType columns (.and left right) .condition
  | compare {left right : Expression} {operator : Operator} {type : BaseType} (exact : operator ≠ .like)
    (hleft : HasType columns left (.base type)) (hright : HasType columns right (.base type)) :
    HasType columns (.binary left operator right) .condition
  | compareAny {left right : Expression} {operator : Operator} {type : BaseType} (exact : operator ≠ .like)
    (hleft : HasType columns left (.base type)) (hright : HasType columns right (.anyOf type)) :
    HasType columns (.binary left operator right) .condition
  | like {left right : Expression} (hleft : HasType columns left (.base .text))
    (hright : HasType columns right (.base .text)) : HasType columns (.binary left .like right) .condition
  | between {subject low high : Expression} {type : BaseType} (hsubject : HasType columns subject (.base type))
    (hlow : HasType columns low (.base type)) (hhigh : HasType columns high (.base type)) :
    HasType columns (.between subject low high) .condition

variable {columns : String → String → BaseType → Prop}

theorem hasType_column_iff {table name : String} {type : BaseType} :
    (Expression.column table name).HasType columns (.base type) ↔ columns table name type := by
  constructor
  · intro h
    cases h with
    | column known => exact known
  · exact .column

theorem hasType_and_iff {left right : Expression} :
    (Expression.and left right).HasType columns .condition ↔
      left.HasType columns .condition ∧ right.HasType columns .condition := by
  constructor
  · intro h
    cases h with
    | and hleft hright => exact ⟨hleft, hright⟩
  · exact fun h => .and h.1 h.2

/-- A conjunction is well typed exactly if each of its parts is. -/
theorem hasType_conjunction_iff (es : List Expression) :
    (Expression.conjunction es).HasType columns .condition ↔ ∀ e ∈ es, e.HasType columns .condition :=
  forall_conjunction_iff (P := fun e => e.HasType columns .condition) (.boolean true) (fun _ _ => hasType_and_iff) es

/-- A comparison with a pattern is well typed exactly if both sides are texts. -/
theorem hasType_like_iff {left right : Expression} :
    (Expression.binary left .like right).HasType columns .condition ↔
      left.HasType columns (.base .text) ∧ right.HasType columns (.base .text) := by
  constructor
  · intro h
    cases h with
    | compare exact => exact absurd rfl exact
    | compareAny exact => exact absurd rfl exact
    | like hleft hright => exact ⟨hleft, hright⟩
  · exact fun h => .like h.1 h.2

end QueryGate.Statement
