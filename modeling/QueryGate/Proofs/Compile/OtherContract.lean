import QueryGate.Proofs.Compile.Parameters
import QueryGate.Proofs.Compile.Typing
import QueryGate.Proofs.Statement.Untyped
/-!
Plans that are compiled under another contract than the one that accepted them. Compiling looks at a contract in three
places: it looks up the base and the targets of the joins, for their views; it looks up the types of the fields that are
compared; and it asks whether the base has a discount. Only the first can fail. A field that is not found is compared as
text, and aliases are never looked up in a contract at all, since the joins of the plan carry them.

So a plan that one contract accepted fails under another one exactly if one of its resources is missing there, and what
it gives otherwise is the same statement up to views, types in casts and the order of the discounts.
-/
set_option autoImplicit false

namespace QueryGate.Compile

open Plan Statement

/-! ## Resources that are missing -/

/-- The resources that a plan names: the base, and then the targets of its joins in their order. -/
def resourcesOf (plan : ValidPlan) : List String := plan.resource :: plan.joins.map (·.targetResource)

/-- The first of some names that a contract does not declare. -/
inductive IsFirstMissing (c : Contract) : List String → String → Prop where
  | here {name : String} {rest : List String} (missing : c.resource? name = none) :
    IsFirstMissing c (name :: rest) name
  | later {declared name : String} {rest : List String} {info : Contract.ResourceInfo}
    (found : c.resource? declared = some info) (h : IsFirstMissing c rest name) :
    IsFirstMissing c (declared :: rest) name

variable {c : Contract}

/-- Behind a name that is declared the first missing one is that of the rest. -/
theorem isFirstMissing_cons_iff {declared name : String} {rest : List String} {info : Contract.ResourceInfo}
    (found : c.resource? declared = some info) :
    IsFirstMissing c (declared :: rest) name ↔ IsFirstMissing c rest name := by
  constructor
  · intro h
    cases h with
    | here missing => exact absurd (found.symm.trans missing) (Option.some_ne_none _)
    | later _ h => exact h
  · exact .later found

/-- A name that is not declared is the first missing one. -/
theorem isFirstMissing_cons_iff_eq {missing name : String} {rest : List String} (h : c.resource? missing = none) :
    IsFirstMissing c (missing :: rest) name ↔ name = missing := by
  constructor
  · intro hfirst
    cases hfirst with
    | here _ => rfl
    | later found _ => exact absurd (found.symm.trans h) (Option.some_ne_none _)
  · rintro rfl
    exact .here h

/-- There is one first missing name at most. -/
theorem IsFirstMissing.unique {names : List String} {name other : String} (h : IsFirstMissing c names name)
    (hother : IsFirstMissing c names other) : other = name := by
  induction h with
  | here missing => exact (isFirstMissing_cons_iff_eq missing).1 hother
  | later found _ ih => exact ih ((isFirstMissing_cons_iff found).1 hother)

/-- There is a first missing name unless all are declared. -/
theorem not_exists_isFirstMissing_iff (names : List String) :
    (¬∃ name, IsFirstMissing c names name) ↔ ∀ name ∈ names, ∃ info, c.resource? name = some info := by
  induction names with
  | nil => exact iff_of_true (fun ⟨_, h⟩ => nomatch h) (by simp)
  | cons name rest ih =>
      rw [List.forall_mem_cons]
      cases hname : c.resource? name with
      | none => simp [isFirstMissing_cons_iff_eq hname]
      | some info => simp [isFirstMissing_cons_iff hname, ih]

/-- Looking up fails for names that are not declared. -/
theorem lookup_eq_error {name : String} (h : c.resource? name = none) :
    (Catalog.ofContract c).lookup name = .error (.resourceNotAllowed name c.resourceNames) := by
  have hcontract : (Catalog.ofContract c).contract.resource? name = none := h
  rw [Catalog.lookup, hcontract]
  rfl

/-! ## Joins -/

/-- A clause joins the view of the target of a join, and takes everything else from the join. -/
def IsClauseOf (c : Contract) (j : ValidJoin) (clause : Join) : Prop :=
  ∃ target, c.resource? j.targetResource = some target
    ∧ clause = ⟨j.kind, target.view, j.tableAlias,
      .binary (.column Contract.baseAlias j.localField) .equals (.column j.tableAlias j.targetField)⟩

/-- Joins whose targets are declared become clauses one by one, and otherwise the first missing target is the error. -/
theorem mapM_joinClause_cases (c : Contract) (joins : List ValidJoin) :
    (∃ clauses, joins.mapM (joinClause (.ofContract c)) = .ok clauses ∧ List.Forall₂ (IsClauseOf c) joins clauses
        ∧ ¬∃ name, IsFirstMissing c (joins.map (·.targetResource)) name)
      ∨ ∃ name, IsFirstMissing c (joins.map (·.targetResource)) name
        ∧ joins.mapM (joinClause (.ofContract c)) = .error (.resourceNotAllowed name c.resourceNames) := by
  induction joins with
  | nil => exact .inl ⟨[], rfl, .nil, fun ⟨_, h⟩ => nomatch h⟩
  | cons j rest ih =>
      rw [List.map_cons, List.mapM_cons, joinClause]
      cases htarget : c.resource? j.targetResource with
      | none =>
          rw [lookup_eq_error htarget]
          exact .inr ⟨_, .here htarget, rfl⟩
      | some target =>
          have hlookup : (Catalog.ofContract c).lookup j.targetResource = .ok target := Catalog.lookup_eq_ok htarget
          rw [hlookup]
          simp only [isFirstMissing_cons_iff htarget]
          rcases ih with ⟨clauses, hclauses, hof, hnone⟩ | ⟨name, hfirst, herror⟩
          · rw [hclauses]
            exact .inl ⟨_, rfl, .cons ⟨target, htarget, rfl⟩ hof, hnone⟩
          · rw [herror]
            exact .inr ⟨name, hfirst, rfl⟩

/-- A plan compiles under a contract that declares all its resources, and otherwise the first missing one is the
error. -/
theorem compilePlan_cases (c : Contract) (plan : ValidPlan) :
    (∃ base clauses, c.resource? plan.resource = some base ∧ List.Forall₂ (IsClauseOf c) plan.joins clauses
        ∧ compilePlan (.ofContract c) plan = .ok ⟨plan.resource, selectWith (scopeOf c base plan) clauses⟩
        ∧ ¬∃ name, IsFirstMissing c (resourcesOf plan) name)
      ∨ ∃ name, IsFirstMissing c (resourcesOf plan) name
        ∧ compilePlan (.ofContract c) plan = .error (.resourceNotAllowed name c.resourceNames) := by
  rw [compilePlan_eq, resourcesOf]
  cases hbase : c.resource? plan.resource with
  | none =>
      rw [lookup_eq_error hbase]
      exact .inr ⟨_, .here hbase, rfl⟩
  | some base =>
      have hlookup : (Catalog.ofContract c).lookup plan.resource = .ok base := Catalog.lookup_eq_ok hbase
      rw [hlookup]
      simp only [isFirstMissing_cons_iff hbase]
      rcases mapM_joinClause_cases c plan.joins with ⟨clauses, hclauses, hof, hnone⟩ | ⟨name, hfirst, herror⟩
      · rw [hclauses]
        exact .inl ⟨base, clauses, rfl, hof, rfl, hnone⟩
      · rw [herror]
        exact .inr ⟨name, hfirst, rfl⟩

/-! ## Types -/

/-- A reference of a plan reads from a resource of a contract: from the base, or from the target of the join of its
relation. -/
inductive ReadsFrom (c : Contract) (plan : ValidPlan) : FieldRef → Contract.ResourceInfo → Prop where
  | base {info : Contract.ResourceInfo} (declared : c.resource? plan.resource = some info) (name : String) :
    ReadsFrom c plan ⟨none, name⟩ info
  | join {j : ValidJoin} {info : Contract.ResourceInfo} (mem : j ∈ plan.joins)
    (declared : c.resource? j.targetResource = some info) (name : String) :
    ReadsFrom c plan ⟨some j.relation, name⟩ info

/-- The type as which a reference of a plan is compared under a contract: the declared one, or text if the contract
does not know the field. -/
inductive ComparedAs (c : Contract) (plan : ValidPlan) (f : FieldRef) : Contract.FieldType → Prop where
  | declared {info : Contract.ResourceInfo} {field : Contract.FieldInfo} (reads : ReadsFrom c plan f info)
    (known : info.fields.get? f.field = some field) : ComparedAs c plan f field.type
  | unknown (h : ∀ info, ReadsFrom c plan f info → info.fields.get? f.field = none) : ComparedAs c plan f .text

/-- The resource that is looked up for a reference is the one that it reads from. -/
theorem resourceOf_eq_some_iff {base : Contract.ResourceInfo} {plan : ValidPlan}
    (hbase : c.resource? plan.resource = some base) (hnodup : (plan.joins.map (·.relation)).Nodup) (f : FieldRef)
    (info : Contract.ResourceInfo) : resourceOf c base plan.joins f = some info ↔ ReadsFrom c plan f info := by
  constructor
  · obtain ⟨relation, name⟩ := f
    intro h
    cases relation with
    | none =>
        obtain rfl : base = info := Option.some.inj h
        exact .base hbase name
    | some relation =>
        obtain ⟨j, hj, hinfo⟩ := Option.bind_eq_some_iff.1 h
        have hrelation := List.find?_some hj
        rw [decide_eq_true_eq] at hrelation
        exact hrelation ▸ .join (List.mem_of_find?_eq_some hj) hinfo name
  · intro h
    cases h with
    | base declared _ => exact hbase.symm.trans declared
    | join mem declared _ =>
        unfold resourceOf
        simp only [find?_relation_eq_some hnodup mem, Option.bind_some]
        exact declared

/-- The type that is looked up for a reference is the one as which it is compared. -/
theorem comparedAs_typeOf {base : Contract.ResourceInfo} {plan : ValidPlan}
    (hbase : c.resource? plan.resource = some base) (hnodup : (plan.joins.map (·.relation)).Nodup) (f : FieldRef) :
    ComparedAs c plan f (typeOf (scopeOf c base plan) f) := by
  have hreads := resourceOf_eq_some_iff hbase hnodup f
  have hfield : (scopeOf c base plan).field? f =
      (resourceOf c base plan.joins f).bind fun info => info.fields.get? f.field := rfl
  rw [typeOf, hfield]
  cases hresource : resourceOf c base plan.joins f with
  | none =>
      refine .unknown fun info hinfo => ?_
      exact absurd (hresource.symm.trans ((hreads info).2 hinfo)) (Option.some_ne_none info).symm
  | some info =>
      rw [Option.bind_some]
      cases hknown : info.fields.get? f.field with
      | none =>
          refine .unknown fun other hother => ?_
          obtain rfl : info = other := Option.some.inj (hresource.symm.trans ((hreads other).2 hother))
          exact hknown
      | some field => exact .declared ((hreads info).1 hresource) hknown

/-! ## What a statement takes from a contract -/

/-- Without an order of its own a plan is ordered by discounts under a contract: its base has a discount there, and it
bounds a field of that name from below. -/
def OrdersByDiscount (c : Contract) (plan : ValidPlan) : Prop :=
  (∃ base, c.resource? plan.resource = some base ∧ base.hasField discountField = true)
    ∧ ∃ p ∈ plan.filters, p.field.field = discountField ∧ (p.comparison = .gt ∨ p.comparison = .gte)

/-- A statement takes from a contract what the contract says: the views of the base and of the targets of the joins, the
types to which the values of the filters are cast, and whether there is a discount to order by. -/
structure TakesFrom (c : Contract) (plan : ValidPlan) (q : Select) : Prop where
  table : ∃ base, c.resource? plan.resource = some base ∧ q.table = base.view
  joined : List.Forall₂
    (fun j clause => ∃ target, c.resource? j.targetResource = some target ∧ clause.table = target.view)
    plan.joins q.joins
  compared : ∃ conjuncts, q.condition = .conjunction conjuncts ∧ List.Forall₂
    (fun p e => ∃ tableAlias type, ComparedAs c plan p.field type
      ∧ Compares (.column tableAlias p.field.field) (baseTypeOf type) p.comparison e) plan.filters conjuncts
  ordered : plan.sort = [] →
    (OrdersByDiscount c plan → q.order = [⟨.column Contract.baseAlias discountField, .descending⟩])
      ∧ (¬OrdersByDiscount c plan → q.order = [])

/-- Two statements of a plan are the same but for what they take from contracts: they have the same columns and aliases,
the same kinds and conditions of joins, the same comparisons with the same parameters, the same limit, and the same order
if the plan asks for one. -/
structure SameButForContract (plan : ValidPlan) (q q' : Select) : Prop where
  columns_eq : q'.columns = q.columns
  tableAlias_eq : q'.tableAlias = q.tableAlias
  joins_eq : (q'.joins.map fun j => (j.kind, j.tableAlias, j.condition)) =
    q.joins.map fun j => (j.kind, j.tableAlias, j.condition)
  condition_eq : q'.condition.untyped = q.condition.untyped
  parameters_eq : (q'.render .empty).parameters = (q.render .empty).parameters
  order_eq : plan.sort ≠ [] → q'.order = q.order
  limit_eq : q'.limit = q.limit

theorem boundsDiscount_eq_true_iff {base : Contract.ResourceInfo} {plan : ValidPlan}
    (hbase : c.resource? plan.resource = some base) :
    boundsDiscount (scopeOf c base plan) = true ↔ OrdersByDiscount c plan := by
  simp [boundsDiscount, OrdersByDiscount, scopeOf, hbase]

/-- The statement that is compiled takes from the contract what it says. -/
theorem takesFrom_selectWith {base : Contract.ResourceInfo} {plan : ValidPlan}
    (hbase : c.resource? plan.resource = some base) (hnodup : (plan.joins.map (·.relation)).Nodup) {clauses : List Join}
    (hclauses : List.Forall₂ (IsClauseOf c) plan.joins clauses) :
    TakesFrom c plan (selectWith (scopeOf c base plan) clauses) where
  table := ⟨base, hbase, rfl⟩
  joined := hclauses.imp fun j clause ⟨target, htarget, hclause⟩ => ⟨target, htarget, by rw [hclause]⟩
  compared := by
    refine ⟨plan.filters.map (predicateCondition (scopeOf c base plan)), rfl, ?_⟩
    rw [List.forall₂_map_right_iff, List.forall₂_same]
    intro p _
    exact ⟨_, _, comparedAs_typeOf hbase hnodup p.field, compares_predicateCondition (scopeOf c base plan) p⟩
  ordered := by
    intro hsort
    have horder : order (scopeOf c base plan) =
        if boundsDiscount (scopeOf c base plan) then [⟨.column Contract.baseAlias discountField, .descending⟩]
        else [] := by
      have hown : (scopeOf c base plan).plan.sort = [] := hsort
      rw [order, hown]
      rfl
    have hbounds := boundsDiscount_eq_true_iff hbase
    exact ⟨fun h => horder.trans (if_pos (hbounds.2 h)), fun h => horder.trans (if_neg fun e => h (hbounds.1 e))⟩

/-! ## What a statement does not take from it -/

section TwoContracts

variable {a b : Contract} {base base' : Contract.ResourceInfo} {plan : ValidPlan}

/-- Clauses of the same joins differ in their views only. -/
theorem map_clauses_eq {joins : List ValidJoin} {clauses clauses' : List Join}
    (h : List.Forall₂ (IsClauseOf a) joins clauses) (h' : List.Forall₂ (IsClauseOf b) joins clauses') :
    (clauses'.map fun j => (j.kind, j.tableAlias, j.condition)) =
      clauses.map fun j => (j.kind, j.tableAlias, j.condition) := by
  induction h generalizing clauses' with
  | nil =>
      cases h'
      rfl
  | cons hclause _ ih =>
      cases h' with
      | cons hclause' hrest' =>
          obtain ⟨target, -, rfl⟩ := hclause
          obtain ⟨target', -, rfl⟩ := hclause'
          rw [List.map_cons, List.map_cons, ih hrest']

/-- The conditions of a filter under two contracts differ in types only. -/
theorem untyped_predicateCondition (p : Predicate) :
    (predicateCondition (scopeOf b base' plan) p).untyped = (predicateCondition (scopeOf a base plan) p).untyped := by
  -- columns are named by the plan alone, and types stand in casts
  have hcolumn : (scopeOf b base' plan).column p.field = (scopeOf a base plan).column p.field := rfl
  rw [predicateCondition, predicateCondition, hcolumn]
  cases p.comparison <;> rfl

theorem untyped_condition :
    (condition (scopeOf b base' plan)).untyped = (condition (scopeOf a base plan)).untyped := by
  rw [condition, condition, untyped_conjunction, untyped_conjunction, List.map_map, List.map_map]
  have heach : ∀ p ∈ plan.filters, (Expression.untyped ∘ predicateCondition (scopeOf b base' plan)) p =
      (Expression.untyped ∘ predicateCondition (scopeOf a base plan)) p := fun p _ => untyped_predicateCondition p
  exact congrArg Expression.conjunction (List.map_congr_left heach)

/-- An order that the plan asks for is the same under all contracts. -/
theorem order_eq_of_sort (h : plan.sort ≠ []) : order (scopeOf b base' plan) = order (scopeOf a base plan) := by
  obtain ⟨key, rest, hsort⟩ := List.exists_cons_of_ne_nil h
  have hown (c : Contract) (base : Contract.ResourceInfo) : (scopeOf c base plan).plan.sort = key :: rest := hsort
  rw [order, order, hown, hown]
  rfl

end TwoContracts

/-! ## A plan under another contract -/

/-- A plan fails to compile exactly if one of its resources is missing, with the first missing one as the error. -/
theorem compilePlan_eq_error_iff (c : Contract) (plan : ValidPlan) (e : PlanError) :
    compilePlan (.ofContract c) plan = .error e ↔
      ∃ name, IsFirstMissing c (resourcesOf plan) name ∧ e = .resourceNotAllowed name c.resourceNames := by
  rcases compilePlan_cases c plan with ⟨_, _, -, -, hok, hnone⟩ | ⟨name, hfirst, herror⟩
  · rw [hok]
    exact iff_of_false (by simp) fun ⟨name, hfirst, _⟩ => hnone ⟨name, hfirst⟩
  · rw [herror, Except.error.injEq]
    constructor
    · rintro rfl
      exact ⟨name, hfirst, rfl⟩
    · rintro ⟨other, hother, rfl⟩
      rw [hfirst.unique hother]

/-- A plan compiles exactly if all its resources are declared. -/
theorem exists_compilePlan_iff (c : Contract) (plan : ValidPlan) :
    (∃ query, compilePlan (.ofContract c) plan = .ok query) ↔
      ∀ name ∈ resourcesOf plan, ∃ info, c.resource? name = some info := by
  rw [← not_exists_isFirstMissing_iff]
  rcases compilePlan_cases c plan with ⟨_, _, -, -, hok, hnone⟩ | ⟨name, hfirst, herror⟩
  · exact iff_of_true ⟨_, hok⟩ hnone
  · refine iff_of_false ?_ fun hnone => hnone ⟨name, hfirst⟩
    rintro ⟨query, hok⟩
    cases herror.symm.trans hok

/-- What compiles is the statement of a scope whose joins are those of the plan. -/
theorem exists_selectWith_of_compilePlan {plan : ValidPlan} {query : Query}
    (h : compilePlan (.ofContract c) plan = .ok query) :
    ∃ base clauses, c.resource? plan.resource = some base ∧ List.Forall₂ (IsClauseOf c) plan.joins clauses
      ∧ query = ⟨plan.resource, selectWith (scopeOf c base plan) clauses⟩ := by
  rcases compilePlan_cases c plan with ⟨base, clauses, hbase, hclauses, hok, -⟩ | ⟨name, -, herror⟩
  · exact ⟨base, clauses, hbase, hclauses, Except.ok.inj (h.symm.trans hok)⟩
  · cases h.symm.trans herror

/-- What a plan compiles to under two contracts is the same but for what it takes from them. -/
theorem sameButForContract_of_compilePlan {a b : Contract} {plan : ValidPlan} {query query' : Query}
    (h : compilePlan (.ofContract a) plan = .ok query) (h' : compilePlan (.ofContract b) plan = .ok query') :
    query'.root = query.root ∧ SameButForContract plan query.select query'.select := by
  have hparameters := (parameters_of_compilePlan h').trans (parameters_of_compilePlan h).symm
  obtain ⟨base, clauses, -, hclauses, rfl⟩ := exists_selectWith_of_compilePlan h
  obtain ⟨base', clauses', -, hclauses', rfl⟩ := exists_selectWith_of_compilePlan h'
  exact ⟨rfl, rfl, rfl, map_clauses_eq hclauses hclauses', untyped_condition, hparameters, order_eq_of_sort, rfl⟩

/-- A plan that one contract accepted is compiled under another one. It fails exactly if the base or the target of a join
is missing there, and the error names the first that is, in the order of the base and then the joins, together with the
names of the resources that the other contract has. Otherwise the statement takes from the other contract what that one
says, with text for a field that it does not know, and is the same as under the first contract in everything else. -/
theorem compilePlan_of_validate (a b : Contract) (raw : RawPlan) (plan : ValidPlan)
    (h : validate (.ofContract a) raw = .ok plan) :
    (∀ e, compilePlan (.ofContract b) plan = .error e ↔
        ∃ name, IsFirstMissing b (resourcesOf plan) name ∧ e = .resourceNotAllowed name b.resourceNames)
      ∧ ((∃ query, compilePlan (.ofContract b) plan = .ok query) ↔
        ∀ name ∈ resourcesOf plan, ∃ info, b.resource? name = some info)
      ∧ ∃ query, compilePlan (.ofContract a) plan = .ok query ∧ TakesFrom a plan query.select
        ∧ ∀ query', compilePlan (.ofContract b) plan = .ok query' →
          query'.root = query.root ∧ TakesFrom b plan query'.select
            ∧ SameButForContract plan query.select query'.select := by
  obtain ⟨base, links, -, hfits⟩ := exists_fits_of_validate h
  have hnodup : (plan.joins.map (·.relation)).Nodup := by
    rw [hfits.joins_eq, List.map_map]
    exact hfits.names_nodup
  have takesFrom (c : Contract) (q : Query) (hq : compilePlan (.ofContract c) plan = .ok q) :
      TakesFrom c plan q.select := by
    obtain ⟨info, clauses, hinfo, hclauses, rfl⟩ := exists_selectWith_of_compilePlan hq
    exact takesFrom_selectWith hinfo hnodup hclauses
  have hquery := compilePlan_eq_ok hfits
  refine ⟨compilePlan_eq_error_iff b plan, exists_compilePlan_iff b plan, _, hquery, takesFrom a _ hquery, ?_⟩
  intro query' hquery'
  obtain ⟨hroot, hsame⟩ := sameButForContract_of_compilePlan hquery hquery'
  exact ⟨hroot, takesFrom b query' hquery', hsame⟩

namespace Annex

/-- In the annex books have no discounts. -/
def book : Contract.ResourceInfo :=
  { Contract.Library.book with
    view := "annex_books"
    fields := .ofList [("id", ⟨.identifier, none⟩), ("shelf", ⟨.identifier, none⟩)] }

/-- A library without shelves. -/
def withoutShelves : Contract := ⟨.ofList [("Book", book)]⟩

/-- The contract of the annex. -/
def contract : Contract := ⟨.ofList [("Book", book), ("Shelf", Contract.Library.shelf)]⟩

/-- A plan for books on their shelves that bounds their discount from below. -/
def plan : Json.Value :=
  shelvedBooksWhere [.object [("field", .string "discount"), ("op", .string "gte"), ("value", .number (.natural 5))]]

end Annex

/-- A plan that the library accepted fails without shelves. In the annex it compiles to a statement on the view there,
whose discounts are texts and do not order it. -/
theorem compilePlan_annex :
    ∃ plan query query', validate (.ofContract Contract.Library.contract) (readPlan Annex.plan) = .ok plan
      ∧ compilePlan (.ofContract Annex.withoutShelves) plan = .error (.resourceNotAllowed "Shelf" ["Book"])
      ∧ compilePlan (.ofContract Contract.Library.contract) plan = .ok query ∧ query.select.order ≠ []
      ∧ compilePlan (.ofContract Annex.contract) plan = .ok query' ∧ query'.select.order = []
      ∧ query'.select.table = "annex_books" ∧ SameButForContract plan query.select query'.select
      ∧ query'.select.condition =
        .binary (.column "t" "discount") .greaterOrEqual (.cast (.parameter (.number (.natural 5))) (.base .text)) := by
  have hplan : ∃ plan, validate (.ofContract Contract.Library.contract) (readPlan Annex.plan) = .ok plan
      ∧ resourcesOf plan = ["Book", "Shelf"]
      ∧ (∃ query, compilePlan (.ofContract Contract.Library.contract) plan = .ok query ∧ query.select.order ≠ [])
      ∧ ∃ query, compilePlan (.ofContract Annex.contract) plan = .ok query ∧ query.select.order = []
        ∧ query.select.table = "annex_books" ∧ query.select.condition =
          .binary (.column "t" "discount") .greaterOrEqual
            (.cast (.parameter (.number (.natural 5))) (.base .text)) :=
    ⟨_, rfl, rfl, ⟨_, rfl, List.cons_ne_nil _ _⟩, _, rfl, rfl, rfl, rfl⟩
  obtain ⟨plan, h, hresources, ⟨query, hquery, horder⟩, query', hquery', horder', htable, hcondition⟩ := hplan
  obtain ⟨herror, -, -⟩ := compilePlan_of_validate _ Annex.withoutShelves _ plan h
  obtain ⟨-, -, compiled, hcompiled, -, hsame⟩ := compilePlan_of_validate _ Annex.contract _ plan h
  obtain rfl : compiled = query := Except.ok.inj (hcompiled.symm.trans hquery)
  -- the books are there, so the shelves are the first that are missing
  have hbooks : Annex.withoutShelves.resource? "Book" = some Annex.book := rfl
  have hmissing : IsFirstMissing Annex.withoutShelves (resourcesOf plan) "Shelf" :=
    hresources ▸ .later hbooks (.here rfl)
  exact ⟨plan, compiled, query', h, (herror _).2 ⟨_, hmissing, rfl⟩, hquery, horder, hquery', horder', htable,
    (hsame query' hquery').2.2, hcondition⟩

end QueryGate.Compile
