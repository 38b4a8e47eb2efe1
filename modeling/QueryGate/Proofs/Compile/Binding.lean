import QueryGate.Guard.Binding
import QueryGate.Proofs.Compile.Parameters
import QueryGate.Proofs.Statement.Placement
/-!
Binding and casting. A statement casts each placeholder as the comparison of its filter demands, and a parameter is
bound by the shape of its value: a list as an array of texts, anything else as one text. Neither knows of the other. A
choice always casts an array and always has a list as its parameter, and a pattern is always a text; but a comparison
with one value casts to a base type whatever the value is. So the two agree on all parameters exactly if no filter
compares its field with a list as if it were one value.
-/
set_option autoImplicit false

namespace QueryGate.Compile

open Json Plan Statement

/-! ## What is bound -/

/-- Whether a value is a list. -/
def isList : Value → Bool
  | .list _ => true
  | _ => false

/-- A value is bound as an array exactly if it is a list. -/
theorem exists_array_iff (v : Value) : (∃ items, Guard.Bound.ofValue v = .array items) ↔ isList v = true := by
  cases v <;> simp [Guard.Bound.ofValue, isList]

/-- A value is bound as one text exactly if it is no list. -/
theorem exists_text_iff (v : Value) : (∃ text, Guard.Bound.ofValue v = .text text) ↔ isList v = false := by
  cases v <;> simp [Guard.Bound.ofValue, isList]

/-- A parameter is bound as its placeholder stands: as an array exactly under a cast to an array type, and as one text
exactly under a cast to a base type or as a pattern. -/
structure BindingAgrees (v : Value) (place : Placement) : Prop where
  array_iff : (∃ items, Guard.Bound.ofValue v = .array items) ↔ ∃ type, place = .cast (.array type)
  text_iff : (∃ text, Guard.Bound.ofValue v = .text text) ↔ (∃ type, place = .cast (.base type)) ∨ place = .pattern

/-- Binding and placement agree where a parameter is a list exactly under a cast to an array type. -/
theorem bindingAgrees_iff (v : Value) (place : Placement) :
    BindingAgrees v place ↔ (isList v = true ↔ ∃ type, place = .cast (.array type))
      ∧ (isList v = false ↔ (∃ type, place = .cast (.base type)) ∨ place = .pattern) := by
  rw [← exists_array_iff, ← exists_text_iff]
  exact ⟨fun h => ⟨h.array_iff, h.text_iff⟩, fun h => ⟨h.1, h.2⟩⟩

/-- Under a cast to an array type a parameter has to be a list. -/
theorem bindingAgrees_array_iff (v : Value) (type : BaseType) :
    BindingAgrees v (.cast (.array type)) ↔ isList v = true := by
  simp [bindingAgrees_iff]

/-- Under a cast to a base type a parameter must not be a list. -/
theorem bindingAgrees_base_iff (v : Value) (type : BaseType) :
    BindingAgrees v (.cast (.base type)) ↔ isList v = false := by
  simp [bindingAgrees_iff]

/-- As a pattern a parameter must not be a list. -/
theorem bindingAgrees_pattern_iff (v : Value) : BindingAgrees v .pattern ↔ isList v = false := by
  simp [bindingAgrees_iff]

/-! ## How the parameters of a filter stand -/

/-- How the parameters of a comparison with a field of a type stand. -/
def placementOf (type : BaseType) : Comparison → Placement
  | .eq | .gt | .lt | .gte | .lte | .between => .cast (.base type)
  | .contains | .startsWith => .pattern
  | .isIn => .cast (.array type)

/-- The type to which the parameters of a filter are cast. -/
def castTypeOf (s : Scope) (p : Predicate) : BaseType := baseTypeOf (typeOf s p.field)

/-- All parameters of a filter stand in the same way. -/
theorem placements_predicateCondition (s : Scope) (p : Predicate) :
    (predicateCondition s p).placements .bare =
      (parametersOfFilter p).map fun v => (v, placementOf (castTypeOf s p) p.comparison) := by
  obtain ⟨field, comparison, value⟩ := p
  cases comparison <;>
    simp [predicateCondition, comparisonCondition, parametersOfFilter, placementOf, castTypeOf, Expression.placements,
      Expression.placementsOfAll, Placement.rightOf, scalarOperand, arrayOperand, patternOperand, Scope.column]

/-- An expression without parameters has no placements. -/
theorem placements_eq_nil {e : Expression} (h : e.parameters = []) (place : Placement) : e.placements place = [] := by
  rw [← map_fst_placements e place, List.map_eq_nil_iff] at h
  exact h

/-- The placements of a statement are those of the filters of its plan, filter by filter. -/
theorem placements_selectWith (s : Scope) {joins : List Join} (h : ∀ j ∈ joins, j.condition.parameters = []) :
    (selectWith s joins).placements =
      s.plan.filters.flatMap fun p =>
        (parametersOfFilter p).map fun v => (v, placementOf (castTypeOf s p) p.comparison) := by
  have hcolumns : (s.plan.select.map s.column).flatMap (·.placements .bare) = [] :=
    List.flatMap_eq_nil_iff.2 (List.forall_mem_map.2 fun f _ => rfl)
  have hjoins : joins.flatMap (·.condition.placements .bare) = [] :=
    List.flatMap_eq_nil_iff.2 fun j hj => placements_eq_nil (h j hj) .bare
  have horder : (order s).flatMap (·.subject.placements .bare) = [] :=
    List.flatMap_eq_nil_iff.2 fun k hk => placements_eq_nil (parameters_order s k hk) .bare
  rw [Select.placements]
  simp only [selectWith, hcolumns, hjoins, horder, condition, placements_conjunction, List.flatMap_map,
    placements_predicateCondition, List.nil_append, List.append_nil]

/-! ## Where they agree -/

/-- A filter compares its field with a list as if it were one value: the value of the filter is a list, or an end of
its range is. -/
inductive ComparesList (p : Predicate) : Prop where
  | value (single : p.comparison ∈ [.eq, .gt, .lt, .gte, .lte]) (list : isList p.value = true)
  | bound (range : p.comparison = .between) {low high : Value} (pair : p.value = .list [low, high])
    (list : isList low = true ∨ isList high = true)

theorem comparesList_iff (p : Predicate) :
    ComparesList p ↔ (p.comparison ∈ [.eq, .gt, .lt, .gte, .lte] ∧ isList p.value = true)
      ∨ p.comparison = .between
        ∧ ∃ low high, p.value = .list [low, high] ∧ (isList low = true ∨ isList high = true) := by
  constructor
  · rintro (⟨single, list⟩ | ⟨range, pair, list⟩)
    · exact .inl ⟨single, list⟩
    · exact .inr ⟨range, _, _, pair, list⟩
  · rintro (⟨single, list⟩ | ⟨range, low, high, pair, list⟩)
    · exact .value single list
    · exact .bound range pair list

/-- Some end of a range is a list exactly if the range is a pair with a list in it. -/
theorem isList_rangeBounds_iff (v : Value) :
    isList (rangeBounds v).1 = true ∨ isList (rangeBounds v).2 = true ↔
      ∃ low high, v = .list [low, high] ∧ (isList low = true ∨ isList high = true) := by
  by_cases hpair : ∃ low high, v = .list [low, high]
  · obtain ⟨low, high, rfl⟩ := hpair
    simp [rangeBounds]
  · -- without a pair both ends are null
    have hnull : rangeBounds v = (.null, .null) := by
      rw [rangeBounds]
      exact fun low high hv => hpair ⟨low, high, hv⟩
    rw [hnull]
    refine iff_of_false (by simp [isList]) ?_
    rintro ⟨low, high, hv, -⟩
    exact hpair ⟨low, high, hv⟩

/-- A parameter of a filter is bound otherwise than it stands exactly if it is a list that is cast to a base type. -/
theorem bindingAgrees_placementOf_iff {p : Predicate} {v : Value} (h : v ∈ parametersOfFilter p) (type : BaseType) :
    BindingAgrees v (placementOf type p.comparison) ↔
      ¬(isList v = true ∧ ∃ base, placementOf type p.comparison = .cast (.base base)) := by
  obtain ⟨field, comparison, value⟩ := p
  cases comparison with
  | eq | gt | lt | gte | lte | between => simp [placementOf, bindingAgrees_base_iff]
  | contains | startsWith =>
      rw [parametersOfFilter, List.mem_singleton] at h
      simp [placementOf, bindingAgrees_pattern_iff, h, isList]
  | isIn =>
      -- a choice makes a list of a single value
      rw [parametersOfFilter, List.mem_singleton] at h
      simp [placementOf, bindingAgrees_array_iff, h, isList]

/-- All parameters of a filter are bound as they stand exactly if it does not compare with a list. -/
theorem forall_bindingAgrees_iff (p : Predicate) (type : BaseType) :
    (∀ v ∈ parametersOfFilter p, BindingAgrees v (placementOf type p.comparison)) ↔ ¬ComparesList p := by
  obtain ⟨field, comparison, value⟩ := p
  rw [comparesList_iff]
  cases comparison with
  | eq | gt | lt | gte | lte => simp [parametersOfFilter, placementOf, bindingAgrees_base_iff]
  | between => simp [parametersOfFilter, placementOf, bindingAgrees_base_iff, ← isList_rangeBounds_iff]
  | contains | startsWith => simp [parametersOfFilter, placementOf, bindingAgrees_pattern_iff, isList]
  | isIn => simp [parametersOfFilter, placementOf, bindingAgrees_array_iff, isList]

/-- A parameter of a statement is bound as its placeholder stands unless it is a list whose placeholder is cast to a
base type, and that happens exactly if some filter compares its field with a list as if it were one value. The
placements are those of the parameters of the statement in their order, and the placeholders in the text count them. -/
theorem bindingAgrees_compilePlan (catalog : Catalog) (plan : ValidPlan) (query : Query)
    (h : compilePlan catalog plan = .ok query) :
    query.select.placements.map Prod.fst = query.statement.parameters
      ∧ placeholders query.statement.text = List.range' 1 query.select.placements.length
      ∧ (∀ u ∈ query.select.placements,
          BindingAgrees u.1 u.2 ↔ ¬(isList u.1 = true ∧ ∃ type, u.2 = .cast (.base type)))
      ∧ ((∀ u ∈ query.select.placements, BindingAgrees u.1 u.2) ↔ ∀ p ∈ plan.filters, ¬ComparesList p) := by
  obtain ⟨base, joins, -, hjoins, rfl⟩ := (compilePlan_eq_ok_iff catalog plan query).1 h
  have hparameters := (selectWith (scopeOf catalog.contract base plan) joins).map_fst_placements
  have hplacements :=
    placements_selectWith (scopeOf catalog.contract base plan) (parameters_of_mapM_joinClause hjoins)
  refine ⟨hparameters, ?_, ?_, ?_⟩
  · rw [Query.statement, placeholders_render, ← hparameters, List.length_map]
  · intro u hu
    rw [hplacements, List.mem_flatMap] at hu
    obtain ⟨p, -, hu⟩ := hu
    obtain ⟨v, hv, rfl⟩ := List.mem_map.1 hu
    exact bindingAgrees_placementOf_iff hv _
  · rw [hplacements]
    simp only [List.forall_mem_flatMap, List.forall_mem_map, forall_bindingAgrees_iff]
    rfl

/-- A plan for the books of two identifiers, which are given to a comparison with one. -/
def listedBooksPlan : ValidPlan where
  resource := "Book"
  joins := []
  select := [⟨none, "id"⟩]
  filters := [⟨⟨none, "id"⟩, .eq, .list [.string "3", .string "4"]⟩]
  sort := []
  limit := 5

/-- A range of two numbers, a pattern and a choice are bound as they stand. Two identifiers under a comparison with one
are not: they are bound as an array of texts, and their placeholder is cast to a single identifier. -/
theorem bindingAgrees_mixed_and_listedBooks :
    (∃ query, compilePlan (.ofContract Contract.Library.contract) mixedPlan = .ok query
        ∧ ∀ u ∈ query.select.placements, BindingAgrees u.1 u.2)
      ∧ ∃ query, compilePlan (.ofContract Contract.Library.contract) listedBooksPlan = .ok query
        ∧ query.select.placements = [(.list [.string "3", .string "4"], .cast (.base .uuid))]
        ∧ Guard.Bound.ofValue (.list [.string "3", .string "4"]) = .array [some "3", some "4"]
        ∧ ¬∀ u ∈ query.select.placements, BindingAgrees u.1 u.2 := by
  constructor
  · have hcompiled : ∃ query, compilePlan (.ofContract Contract.Library.contract) mixedPlan = .ok query := ⟨_, rfl⟩
    obtain ⟨query, h⟩ := hcompiled
    obtain ⟨-, -, -, hagree⟩ := bindingAgrees_compilePlan _ _ query h
    refine ⟨query, h, hagree.2 ?_⟩
    intro p hp
    simp only [mixedPlan, List.mem_cons, List.not_mem_nil, or_false] at hp
    rintro (⟨single, list⟩ | ⟨range, pair, list⟩)
    · rcases hp with rfl | rfl | rfl <;> simp at single
    · rcases hp with rfl | rfl | rfl
      · cases pair
        simp [isList] at list
      · cases range
      · cases range
  · refine ⟨_, rfl, rfl, rfl, ?_⟩
    intro hall
    exact ((bindingAgrees_compilePlan (.ofContract Contract.Library.contract) listedBooksPlan _ rfl).2.2.2.1 hall _
      List.mem_cons_self) (.value (by decide) rfl)

end QueryGate.Compile
