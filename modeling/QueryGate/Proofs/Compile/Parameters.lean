import QueryGate.Proofs.Compile.Scope
import QueryGate.Proofs.Contract.Consistency
import QueryGate.Proofs.Statement.Parts
/-!
The parameters of a statement. They are those of the filters of the plan, filter by filter; nothing else in a statement
has any. So the conjunct of a filter has the placeholders of the parameters of this filter, whatever stands before it,
and there is a condition exactly if there is a filter.
-/
set_option autoImplicit false

namespace QueryGate.Compile

open Json Plan Statement

/-! ## What filters add -/

/-- The parameters of a filter: both ends of a range, a list of the items of a choice, a pattern, and otherwise the
value as it is. -/
def parametersOfFilter (p : Predicate) : List Value :=
  match p.comparison with
  | .eq | .gt | .lt | .gte | .lte => [p.value]
  | .contains => [.string ("%" ++ patternText p.value ++ "%")]
  | .startsWith => [.string (patternText p.value ++ "%")]
  | .between => [(rangeBounds p.value).1, (rangeBounds p.value).2]
  | .isIn => [.list (itemsOf p.value)]

/-- The condition of a filter has the parameters of the filter. -/
theorem parameters_predicateCondition (s : Scope) (p : Predicate) :
    (predicateCondition s p).parameters = parametersOfFilter p := by
  obtain ⟨field, comparison, value⟩ := p
  cases comparison <;>
    simp [predicateCondition, comparisonCondition, parametersOfFilter, Expression.parameters, Expression.pieces,
      scalarOperand, arrayOperand, patternOperand, Scope.column, piecesOfEach_eq_map, commaSeparated]

/-- The condition of a filter is not the literal true. -/
theorem predicateCondition_ne_true (s : Scope) (p : Predicate) : predicateCondition s p ≠ .boolean true := by
  obtain ⟨field, comparison, value⟩ := p
  cases comparison <;> simp [predicateCondition, comparisonCondition]

/-- A conjunction is the literal true exactly if it has no parts, unless it has a part that is. -/
theorem conjunction_eq_true_iff {es : List Expression} (h : ∀ e ∈ es, e ≠ .boolean true) :
    Expression.conjunction es = .boolean true ↔ es = [] := by
  cases es with
  | nil => exact iff_of_true rfl rfl
  | cons e rest =>
      refine iff_of_false ?_ (List.cons_ne_nil e rest)
      -- the last part decides what the conjunction is
      cases rest using List.reverseRecOn with
      | nil => exact h e List.mem_cons_self
      | append_singleton rest f _ =>
          rw [Expression.conjunction, List.foldl_append, List.foldl_cons, List.foldl_nil]
          simp

/-- The condition of a plan is the literal true exactly if the plan has no filters. -/
theorem condition_eq_true_iff (s : Scope) : condition s = .boolean true ↔ s.plan.filters = [] := by
  rw [condition, conjunction_eq_true_iff (List.forall_mem_map.2 fun p _ => predicateCondition_ne_true s p),
    List.map_eq_nil_iff]

/-! ## What nothing else adds -/

/-- The conditions of joins compare columns. -/
theorem parameters_of_mapM_joinClause {catalog : Catalog} {joins : List ValidJoin} {clauses : List Join}
    (h : joins.mapM (joinClause catalog) = .ok clauses) : ∀ j ∈ clauses, j.condition.parameters = [] := by
  induction joins generalizing clauses with
  | nil =>
      cases h
      exact fun j hj => absurd hj List.not_mem_nil
  | cons j rest ih =>
      rw [List.mapM_cons] at h
      cases htarget : catalog.lookup j.targetResource with
      | error e =>
          rw [joinClause, htarget] at h
          cases h
      | ok target =>
          rw [joinClause, htarget] at h
          cases hrest : rest.mapM (joinClause catalog) with
          | error e =>
              rw [hrest] at h
              cases h
          | ok clauses =>
              rw [hrest] at h
              cases h
              exact List.forall_mem_cons.2 ⟨rfl, ih hrest⟩

/-- The order of a plan is by columns. -/
theorem parameters_order (s : Scope) : ∀ k ∈ order s, k.subject.parameters = [] := by
  intro k hk
  unfold order at hk
  split at hk
  · split at hk
    · rw [List.mem_singleton.1 hk]
      rfl
    · exact absurd hk List.not_mem_nil
  · obtain ⟨key, -, rfl⟩ := List.mem_map.1 hk
    rfl

/-- Before and after its condition a statement has no parameters. -/
theorem parameters_selectWith (s : Scope) {joins : List Join} (h : ∀ j ∈ joins, j.condition.parameters = []) :
    parametersOf (selectWith s joins).front = [] ∧ parametersOf (selectWith s joins).back = [] := by
  have hcolumns : ∀ e ∈ s.plan.select.map s.column, e.parameters = [] :=
    List.forall_mem_map.2 fun f _ => rfl
  rw [Select.parametersOf_front, Select.parametersOf_back]
  refine ⟨?_, List.flatMap_eq_nil_iff.2 (parameters_order s)⟩
  rw [List.append_eq_nil_iff]
  exact ⟨List.flatMap_eq_nil_iff.2 hcolumns, List.flatMap_eq_nil_iff.2 h⟩

/-- The parameters of filters, filter by filter. -/
theorem flatMap_parameters_predicateCondition (s : Scope) (ps : List Predicate) :
    (ps.map (predicateCondition s)).flatMap Expression.parameters = ps.flatMap parametersOfFilter := by
  rw [List.flatMap_map]
  simp only [parameters_predicateCondition]

/-- The parameters of the statement of a plan are those of its filters. -/
theorem parameters_of_compilePlan {catalog : Catalog} {plan : ValidPlan} {query : Query}
    (h : compilePlan catalog plan = .ok query) :
    (query.select.render .empty).parameters = plan.filters.flatMap parametersOfFilter := by
  obtain ⟨base, joins, -, hjoins, rfl⟩ := (compilePlan_eq_ok_iff catalog plan query).1 h
  obtain ⟨hfront, hback⟩ :=
    parameters_selectWith (scopeOf catalog.contract base plan) (parameters_of_mapM_joinClause hjoins)
  have hcondition : (condition (scopeOf catalog.contract base plan)).parameters =
      plan.filters.flatMap parametersOfFilter :=
    (parameters_conjunction _).trans (flatMap_parameters_predicateCondition _ _)
  rw [parameters_render_eq, hfront, hback, List.nil_append, List.append_nil]
  exact hcondition

/-! ## The statement of a plan -/

/-- A part of a text is the conjunct of a filter that stands between others: rendering the condition of the filter
appends it to the part to the left, behind the parameters of the filters before; and the placeholders in it are those
of the parameters of the filter, while those before and after it are of the filters before and after. -/
structure IsConjunct (s : Scope) (before : List Predicate) (p : Predicate) (after : List Predicate)
    (text left conjunct right : String) : Prop where
  cut : IsCut text left conjunct right
  rendered : (predicateCondition s p).render ⟨left, before.flatMap parametersOfFilter⟩ =
    ⟨left ++ conjunct, before.flatMap parametersOfFilter ++ parametersOfFilter p⟩
  placeholders_left : placeholders left = List.range' 1 (before.flatMap parametersOfFilter).length
  placeholders_conjunct : placeholders conjunct =
    List.range' ((before.flatMap parametersOfFilter).length + 1) (parametersOfFilter p).length
  placeholders_right : placeholders right =
    List.range' ((before.flatMap parametersOfFilter ++ parametersOfFilter p).length + 1)
      (after.flatMap parametersOfFilter).length

/-- In a statement every filter of the plan has its conjunct. -/
theorem exists_isConjunct (s : Scope) {joins : List Join} (hjoins : ∀ j ∈ joins, j.condition.parameters = [])
    {before : List Predicate} {p : Predicate} {after : List Predicate} (h : s.plan.filters = before ++ p :: after) :
    ∃ left conjunct right,
      IsConjunct s before p after ((selectWith s joins).render .empty).text left conjunct right := by
  obtain ⟨hfront, hback⟩ := parameters_selectWith s hjoins
  -- the pieces of the filter stand in the condition, and the condition in the statement
  obtain ⟨opened, closed, hpieces, hopened, hclosed⟩ := exists_pieces_conjunction
    (before.map (predicateCondition s)) (predicateCondition s p) (after.map (predicateCondition s))
  rw [flatMap_parameters_predicateCondition] at hopened hclosed
  have hcondition : conditionPieces (condition s) =
      .fixed " WHERE " :: opened ++ (predicateCondition s p).pieces ++ closed := by
    have hfalse : ¬(condition s).isTrue = true := by
      rw [isTrue_eq_true_iff, condition_eq_true_iff, h]
      exact List.append_ne_nil_of_right_ne_nil _ (List.cons_ne_nil _ _)
    rw [conditionPieces, if_neg hfalse, condition, h, List.map_append, List.map_cons, hpieces]
    rfl
  have hselect : (selectWith s joins).pieces =
      ((selectWith s joins).front ++ .fixed " WHERE " :: opened) ++ (predicateCondition s p).pieces
        ++ (closed ++ (selectWith s joins).back) := by
    have hown : (selectWith s joins).condition = condition s := rfl
    rw [Select.pieces_eq, hown, hcondition]
    simp
  obtain ⟨left, conjunct, right, hcut, hrendered, hleft, hown, hright⟩ := exists_isCut hselect
  have hbefore : parametersOf ((selectWith s joins).front ++ .fixed " WHERE " :: opened) =
      before.flatMap parametersOfFilter := by
    simp [hfront, hopened]
  have hafter : parametersOf (closed ++ (selectWith s joins).back) = after.flatMap parametersOfFilter := by
    simp [hback, hclosed]
  rw [hbefore, parameters_predicateCondition] at hrendered hown hright
  rw [hbefore] at hleft
  rw [hafter] at hright
  exact ⟨left, conjunct, right, hcut, hrendered, hleft, hown, hright⟩

/-- No parameter is lost, doubled or attached to another filter. The parameters of a statement are those of the filters
of its plan, in their order; its placeholders count them, each once; the conjunct of each filter has the placeholders of
the parameters of this filter; and there is a condition in the text exactly if the plan has filters. -/
theorem parameters_compilePlan (catalog : Catalog) (plan : ValidPlan) (query : Query)
    (h : compilePlan catalog plan = .ok query) :
    query.statement.parameters = plan.filters.flatMap parametersOfFilter
      ∧ placeholders query.statement.text = List.range' 1 query.statement.parameters.length
      ∧ (∃ base, catalog.lookup plan.resource = .ok base
        ∧ ∀ before p after, plan.filters = before ++ p :: after → ∃ left conjunct right,
          IsConjunct (scopeOf catalog.contract base plan) before p after query.statement.text left conjunct right)
      ∧ (" WHERE ".toList.map Lexeme.char <:+: lex query.statement.text.toList ↔ plan.filters ≠ []) := by
  obtain ⟨base, joins, hbase, hjoins, rfl⟩ := (compilePlan_eq_ok_iff catalog plan query).1 h
  have hclauses := parameters_of_mapM_joinClause hjoins
  obtain ⟨hfront, hback⟩ := parameters_selectWith (scopeOf catalog.contract base plan) hclauses
  have hcondition : (selectWith (scopeOf catalog.contract base plan) joins).condition.parameters =
      plan.filters.flatMap parametersOfFilter :=
    (parameters_conjunction _).trans (flatMap_parameters_predicateCondition _ _)
  refine ⟨?_, placeholders_render _, ⟨base, hbase, ?_⟩, ?_⟩
  · rw [Query.statement, parameters_render_eq, hfront, hback, hcondition, List.append_nil, List.nil_append]
  · intro before p after hfilters
    exact exists_isConjunct _ hclauses hfilters
  · rw [Query.statement, where_isInfix_lex_iff]
    exact not_congr (condition_eq_true_iff _)

/-- A plan for books with a range, a pattern and a choice between them. -/
def mixedPlan : ValidPlan where
  resource := "Book"
  joins := [⟨"Shelf", "s", .inner, "shelf", "Shelf", "id"⟩]
  select := [⟨none, "id"⟩]
  filters := [⟨⟨none, "discount"⟩, .between, .list [.number (.natural 2), .number (.natural 7)]⟩,
    ⟨⟨some "Shelf", "room"⟩, .contains, .string "$1"⟩, ⟨⟨none, "id"⟩, .isIn, .string "3; --"⟩]
  sort := []
  limit := 5

/-- A range takes two placeholders, so the pattern after it has the third and the choice the fourth; a placeholder in
the text of a value is none. -/
theorem parameters_mixedPlan : ∃ query, compilePlan (.ofContract Contract.Library.contract) mixedPlan = .ok query
    ∧ query.statement.parameters =
      [.number (.natural 2), .number (.natural 7), .string "%$1%", .list [.string "3; --"]]
    ∧ placeholders query.statement.text = [1, 2, 3, 4] := by
  have hcompiled : ∃ query, compilePlan (.ofContract Contract.Library.contract) mixedPlan = .ok query := ⟨_, rfl⟩
  obtain ⟨query, h⟩ := hcompiled
  obtain ⟨hparameters, hplaceholders, -, -⟩ := parameters_compilePlan _ _ query h
  refine ⟨query, h, hparameters, ?_⟩
  rw [hplaceholders, hparameters]
  rfl

end QueryGate.Compile
