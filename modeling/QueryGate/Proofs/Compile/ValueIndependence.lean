import QueryGate.Proofs.Compile.Scope
import QueryGate.Proofs.Contract.Consistency
import QueryGate.Proofs.Plan.Blank
import QueryGate.Proofs.Statement.Blank
/-!
Values of filters never influence a statement. Plans that differ in the values of their filters only are compiled to
statements that differ in their parameters only, and fail for the same reason if they fail.

Values do steer the compilation: a range looks at the shape of its value, a list at its items, and a pattern at its
text. What they steer is which values become parameters; the rest of the syntax tree is the same.
-/
set_option autoImplicit false

namespace QueryGate.Compile

open Json Plan Statement

/-! ## Conditions -/

/-- The blank condition of a comparison does not depend on the value that is compared with. -/
theorem blank_comparisonCondition (column : Expression) (type : Contract.FieldType) (v w : Value)
    (comparison : Comparison) :
    (comparisonCondition column type v comparison).blank = (comparisonCondition column type w comparison).blank := by
  -- each comparison has as many parameters for one value as for any other
  cases comparison <;> rfl

/-- The scope of the blank plan. -/
def Scope.blank (s : Scope) : Scope := { s with plan := s.plan.blank }

/-- The blank condition of a plan is that of the blank plan. -/
theorem blank_condition (s : Scope) : (condition s.blank).blank = (condition s).blank := by
  rw [condition, condition, blank_conjunction, blank_conjunction, Scope.blank, ValidPlan.blank, List.map_map,
    List.map_map, List.map_map]
  congr 1
  apply List.map_congr_left
  intro p _
  exact blank_comparisonCondition _ _ _ _ _

/-- The order of a plan is that of the blank plan: the default order looks at the fields and the comparisons of the
filters and not at their values. -/
theorem order_blank (s : Scope) : order s.blank = order s := by
  have hbounds : boundsDiscount s.blank = boundsDiscount s := by
    rw [boundsDiscount, boundsDiscount, Scope.blank, ValidPlan.blank, List.any_map]
    rfl
  have hsort : s.blank.plan.sort = s.plan.sort := rfl
  rw [order, order, hbounds, hsort]
  rfl

/-! ## Statements -/

/-- The blank statement of a plan is that of the blank plan. -/
theorem blank_selectWith (s : Scope) (joins : List Join) :
    (selectWith s.blank joins).blank = (selectWith s joins).blank := by
  rw [selectWith, selectWith, Select.blank, Select.blank, blank_condition, order_blank]
  rfl

/-- A plan and the blank plan are compiled alike, but for their parameters. -/
theorem compilePlan_blank (catalog : Catalog) (plan : ValidPlan) :
    (compilePlan catalog plan.blank).map Query.blank = (compilePlan catalog plan).map Query.blank := by
  have hresource : plan.blank.resource = plan.resource := rfl
  have hjoins : plan.blank.joins = plan.joins := rfl
  rw [compilePlan_eq, compilePlan_eq, hresource, hjoins]
  cases catalog.lookup plan.resource with
  | error e => rfl
  | ok base =>
      cases plan.joins.mapM (joinClause catalog) with
      | error e => rfl
      | ok joins =>
          have hscope :
              scopeOf catalog.contract base plan.blank = (scopeOf catalog.contract base plan).blank := rfl
          simp only [Except.map, hscope, Query.blank, blank_selectWith]

/-! ## Two runs -/

/-- Two outcomes agree but for the values of filters: they are the same error, or plans that differ in these values
only and statements with the same text, the same text of the question how they would be run, and as many parameters. -/
inductive AgreeButValues : Except PlanError (ValidPlan × Query) → Except PlanError (ValidPlan × Query) → Prop where
  | error (e : PlanError) : AgreeButValues (.error e) (.error e)
  | ok {plan plan' : ValidPlan} {query query' : Query} (plans : plan.blank = plan'.blank)
    (root : query.root = query'.root) (text : query.statement.text = query'.statement.text)
    (explanation : query.explainStatement.text = query'.explainStatement.text)
    (count : query.statement.parameters.length = query'.statement.parameters.length) :
    AgreeButValues (.ok (plan, query)) (.ok (plan', query'))

/-- Queries that are the same when they are blank have the same statement but for its parameters. -/
theorem agreeButValues_ok {plan plan' : ValidPlan} {query query' : Query} (hplan : plan.blank = plan'.blank)
    (hquery : query.blank = query'.blank) : AgreeButValues (.ok (plan, query)) (.ok (plan', query')) := by
  have hroot : query.blank.root = query'.blank.root := by rw [hquery]
  have hselect : query.blank.select = query'.blank.select := by rw [hquery]
  have hrender (s : Statement) : (query.select.render s).text = (query'.select.render s).text
      ∧ (query.select.render s).parameters.length = (query'.select.render s).parameters.length := by
    obtain ⟨htext, hlength⟩ := text_render_blank query.select s
    obtain ⟨htext', hlength'⟩ := text_render_blank query'.select s
    have hsame : query.select.blank = query'.select.blank := hselect
    rw [hsame] at htext hlength
    exact ⟨htext.symm.trans htext', hlength.symm.trans hlength'⟩
  exact .ok hplan hroot (hrender .empty).1 (hrender _).1 (hrender .empty).2

/-- Outcomes that a function makes the same are the same error, or values that it makes the same. -/
theorem cases_of_map_eq {ε α β : Type} {f : α → β} {x y : Except ε α} (h : x.map f = y.map f) :
    (∃ e, x = .error e ∧ y = .error e) ∨ ∃ a b, x = .ok a ∧ y = .ok b ∧ f a = f b := by
  cases x with
  | error e =>
      cases y with
      | error e' => exact .inl ⟨e, rfl, by rw [Except.error.inj h]⟩
      | ok b => cases h
  | ok a =>
      cases y with
      | error e' => cases h
      | ok b => exact .inr ⟨a, b, rfl, rfl, Except.ok.inj h⟩

/-- Plans that differ in the values of filters only are compiled alike. -/
theorem agreeButValues_compileRaw (catalog : Catalog) {raw raw' : RawPlan} (h : raw.blank = raw'.blank) :
    AgreeButValues (compileRaw catalog raw) (compileRaw catalog raw') := by
  have hvalid : (validate catalog raw).map ValidPlan.blank = (validate catalog raw').map ValidPlan.blank := by
    rw [← validate_blank, ← validate_blank, h]
  rw [compileRaw, compileRaw]
  -- both plans fail validation alike, or both are accepted and then compiled alike
  rcases cases_of_map_eq hvalid with ⟨e, hplan, hplan'⟩ | ⟨plan, plan', hplan, hplan', hblank⟩
  · rw [hplan, hplan']
    exact .error e
  · have hcompiled : (compilePlan catalog plan).map Query.blank = (compilePlan catalog plan').map Query.blank := by
      rw [← compilePlan_blank, ← compilePlan_blank catalog plan', hblank]
    rw [hplan, hplan']
    rcases cases_of_map_eq hcompiled with ⟨e, hquery, hquery'⟩ | ⟨query, query', hquery, hquery', hsame⟩
    · simp only [bind, Except.bind, hquery, hquery']
      exact .error e
    · simp only [bind, Except.bind, hquery, hquery']
      exact agreeButValues_ok hblank hsame

/-- Values of filters never influence a statement. Two plans that are the same but for the values of their filters, as
they are received or as JSON values, come to the same error or to statements with the same text, whatever the
catalog. -/
theorem agreeButValues_compile (catalog : Catalog) :
    (∀ raw raw' : RawPlan, raw.blank = raw'.blank → AgreeButValues (compileRaw catalog raw) (compileRaw catalog raw'))
      ∧ ∀ v w : Value, withoutFilterValues v = withoutFilterValues w →
        AgreeButValues (compileValue catalog v) (compileValue catalog w) := by
  refine ⟨fun raw raw' h => agreeButValues_compileRaw catalog h, ?_⟩
  intro v w h
  have hplan : (RawPlan.ofValue v).map RawPlan.blank = (RawPlan.ofValue w).map RawPlan.blank := by
    rw [← ofValue_withoutFilterValues, ← ofValue_withoutFilterValues, h]
  rw [compileValue, compileValue]
  rcases cases_of_map_eq hplan with ⟨e, hv, hw⟩ | ⟨raw, raw', hv, hw, hblank⟩
  · rw [hv, hw]
    exact .error (.notAnObject e)
  · rw [hv, hw]
    exact agreeButValues_compileRaw catalog hblank

/-- A plan for books with two filters, whose value members are given. -/
def filteredPlan (range choice : List (String × Value)) : Value :=
  .object [("resource", .string "Book"),
    ("where", .list [.object ([("field", .string "discount"), ("op", .string "between")] ++ range),
      .object ([("field", .string "Shelf.room"), ("op", .string "in")] ++ choice),
      .object ([("field", .string "id"), ("op", .string "in")] ++ choice)])]

/-- A range without a value and a choice from one text come to the statement of a proper range and a choice from a
list. -/
theorem agreeButValues_filteredPlan :
    withoutFilterValues (filteredPlan [] [("value", .string "1")]) =
        withoutFilterValues (filteredPlan [("value", .list [.number (.natural 2), .number (.natural 7)])]
          [("value", .list [.null, .string "3; --"])])
      ∧ AgreeButValues (compileValue (.ofContract Contract.Library.contract) (filteredPlan [] [("value", .string "1")]))
        (compileValue (.ofContract Contract.Library.contract)
          (filteredPlan [("value", .list [.number (.natural 2), .number (.natural 7)])]
            [("value", .list [.null, .string "3; --"])])) :=
  ⟨rfl, (agreeButValues_compile _).2 _ _ rfl⟩

end QueryGate.Compile
