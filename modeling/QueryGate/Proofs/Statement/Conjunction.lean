import QueryGate.Statement.Select
/-!
Conjunctions part by part. A conjunction is a row of `AND`s from left to right, or the literal true where it has no
parts; so what takes an `AND` apart takes a conjunction apart, as far as the literal true adds nothing.
-/
set_option autoImplicit false

namespace QueryGate.Statement

/-- Expressions that are changed part by part are so in a conjunction. -/
theorem map_conjunction {f : Expression → Expression} (htrue : f (.boolean true) = .boolean true)
    (hand : ∀ left right, f (.and left right) = .and (f left) (f right)) (es : List Expression) :
    f (.conjunction es) = .conjunction (es.map f) := by
  have hfold (e : Expression) (es : List Expression) : f (es.foldl .and e) = (es.map f).foldl .and (f e) := by
    induction es generalizing e with
    | nil => rfl
    | cons g rest ih => rw [List.foldl_cons, ih, hand, List.map_cons, List.foldl_cons]
  cases es with
  | nil => exact htrue
  | cons e rest => exact hfold e rest

section Lists

variable {α : Type} {f : Expression → List α} (hand : ∀ left right, f (.and left right) = f left ++ f right)

include hand

/-- A list that is gathered from the parts of an `AND` is gathered from a row of them in their order. -/
theorem flatMap_foldl_and (e : Expression) (es : List Expression) :
    f (es.foldl .and e) = f e ++ es.flatMap f := by
  induction es generalizing e with
  | nil => simp
  | cons g rest ih => rw [List.foldl_cons, ih, hand, List.flatMap_cons, List.append_assoc]

/-- A list that is gathered from the parts of an `AND` is gathered from those of a conjunction. -/
theorem flatMap_conjunction (htrue : f (.boolean true) = []) (es : List Expression) :
    f (.conjunction es) = es.flatMap f := by
  cases es with
  | nil => exact htrue
  | cons e rest => rw [Expression.conjunction, flatMap_foldl_and hand, List.flatMap_cons]

end Lists

/-- What holds of an `AND` exactly if it holds of both parts holds of a conjunction exactly if it does of all of them. -/
theorem forall_conjunction_iff {P : Expression → Prop} (htrue : P (.boolean true))
    (hand : ∀ left right, P (.and left right) ↔ P left ∧ P right) (es : List Expression) :
    P (.conjunction es) ↔ ∀ e ∈ es, P e := by
  have hfold (e : Expression) (es : List Expression) : P (es.foldl .and e) ↔ P e ∧ ∀ f ∈ es, P f := by
    induction es generalizing e with
    | nil => simp
    | cons f rest ih => rw [List.foldl_cons, ih, hand, List.forall_mem_cons, and_assoc]
  cases es with
  | nil => exact iff_of_true htrue (by simp)
  | cons e rest => rw [Expression.conjunction, hfold, List.forall_mem_cons]

end QueryGate.Statement
