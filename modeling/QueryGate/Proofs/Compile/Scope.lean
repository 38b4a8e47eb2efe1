import QueryGate.Compile.Query
import QueryGate.Proofs.Compile.AliasMap
import QueryGate.Proofs.Plan.Validation
/-!
The statement of a plan that fits its contract. Compiling it cannot fail, and the scope in which it is compiled knows
the alias of every join: an unqualified reference becomes a column of the base alias, and a reference through a
relation becomes a column of the alias of that relation's join.
-/
set_option autoImplicit false

namespace QueryGate.Compile

open Plan Statement

/-! ## Aliases -/

namespace AliasMap

/-- The aliases with those of some joins entered one after the other. -/
def insertJoins (m : AliasMap) (joins : List ValidJoin) : AliasMap :=
  joins.foldl (fun m j => m.insert j.relation j.tableAlias) m

/-- Joins enter their aliases under their relations. -/
theorem insertJoins_eq_insertAll (m : AliasMap) (joins : List ValidJoin) :
    m.insertJoins joins = m.insertAll (joins.map fun j => (j.relation, j.tableAlias)) := by
  rw [insertJoins, insertAll, List.foldl_map]

/-- What joins along distinct relations enter under a relation is the alias of its join. -/
theorem isLastAlias_joins_iff {joins : List ValidJoin} (hnodup : (joins.map (·.relation)).Nodup)
    {name tableAlias : String} :
    IsLastAlias (joins.map fun j => (j.relation, j.tableAlias)) name tableAlias ↔
      ∃ j ∈ joins, j.relation = name ∧ j.tableAlias = tableAlias := by
  have hnames : ((joins.map fun j => (j.relation, j.tableAlias)).map Prod.fst).Nodup := by
    rw [List.map_map]
    exact hnodup
  rw [isLastAlias_iff_mem hnames, List.mem_map]
  simp only [Prod.mk.injEq]

/-- After joins along distinct relations each relation has the alias of its join. -/
theorem get?_insertJoins_of_mem {joins : List ValidJoin} (hnodup : (joins.map (·.relation)).Nodup) (m : AliasMap)
    {j : ValidJoin} (hj : j ∈ joins) : (m.insertJoins joins).get? j.relation = some j.tableAlias := by
  rw [insertJoins_eq_insertAll, get?_insertAll]
  exact .inl ((isLastAlias_joins_iff hnodup).2 ⟨j, hj, rfl, rfl⟩)

end AliasMap

/-! ## The scope of a plan -/

/-- The scope of a plan on a base resource when the aliases of its joins are known. -/
def scopeOf (c : Contract) (base : Contract.ResourceInfo) (plan : ValidPlan) : Scope :=
  ⟨c, plan, base, (AliasMap.ofBase plan.resource).insertJoins plan.joins⟩

/-- Entering joins changes the aliases of a scope only. -/
theorem foldl_enter (joins : List ValidJoin) (s : Scope) :
    joins.foldl Scope.enter s = { s with aliases := s.aliases.insertJoins joins } := by
  induction joins generalizing s with
  | nil => rfl
  | cons j rest ih =>
      rw [List.foldl_cons, ih]
      rfl

section Fits

variable {c : Contract} {base : Contract.ResourceInfo} {links : List Link} {plan : ValidPlan}

/-- In the scope of a plan that fits, each relation that is joined has the alias of its join. -/
theorem get?_aliases_scopeOf (h : plan.Fits c base links) {l : Link} (hl : l ∈ links) :
    (scopeOf c base plan).aliases.get? l.name = some l.relation.tableAlias := by
  have hnodup : (plan.joins.map (·.relation)).Nodup := by
    rw [h.joins_eq, List.map_map]
    exact h.names_nodup
  have hmem : l.join ∈ plan.joins := h.joins_eq ▸ List.mem_map_of_mem hl
  exact AliasMap.get?_insertJoins_of_mem hnodup _ hmem

/-- The scope of a plan that fits knows the aliases of its links, and the base alias unless a link has the name of the
base. -/
theorem containsAlias_scopeOf_iff (h : plan.Fits c base links) {tableAlias : String} :
    (scopeOf c base plan).aliases.containsAlias tableAlias = true ↔
      tableAlias ∈ (links.map fun l => l.relation.tableAlias)
        ∨ (plan.resource ∉ links.map (·.name) ∧ tableAlias = Contract.baseAlias) := by
  have hnodup : ((links.map Link.join).map (·.relation)).Nodup := by
    rw [List.map_map]
    exact h.names_nodup
  rw [scopeOf, AliasMap.insertJoins_eq_insertAll, h.joins_eq, AliasMap.containsAlias_insertAll_iff]
  have hnames : ((links.map Link.join).map fun j => (j.relation, j.tableAlias)).map Prod.fst = links.map (·.name) := by
    rw [List.map_map, List.map_map]
    rfl
  rw [hnames]
  refine or_congr_left ⟨?_, ?_⟩
  · rintro ⟨name, hlast⟩
    obtain ⟨j, hj, -, rfl⟩ := (AliasMap.isLastAlias_joins_iff hnodup).1 hlast
    obtain ⟨l, hl, rfl⟩ := List.mem_map.1 hj
    exact List.mem_map_of_mem hl
  · intro hmem
    obtain ⟨l, hl, rfl⟩ := List.mem_map.1 hmem
    exact ⟨l.name, (AliasMap.isLastAlias_joins_iff hnodup).2 ⟨l.join, List.mem_map_of_mem hl, rfl, rfl⟩⟩

/-- The column of a reference without a relation is one of the base alias. -/
theorem column_unqualified (s : Scope) (field : String) :
    s.column ⟨none, field⟩ = .column Contract.baseAlias field := rfl

/-- The column of a reference through a link is one of the alias of that link. -/
theorem column_link (h : plan.Fits c base links) {l : Link} (hl : l ∈ links) (field : String) :
    (scopeOf c base plan).column ⟨some l.name, field⟩ = .column l.relation.tableAlias field := by
  rw [Scope.column, AliasMap.aliasFor]
  simp only [get?_aliases_scopeOf h hl, Option.getD_some]

/-- What the scope of a plan that fits says about a reference of it is what the resource says that it leads to. -/
theorem field?_scopeOf (h : plan.Fits c base links) {f : FieldRef} {info : Contract.ResourceInfo}
    (hf : LeadsTo base links f info) : (scopeOf c base plan).field? f = info.fields.get? f.field := by
  unfold Scope.field?
  simp only [scopeOf, h.joins_eq, hf.resourceOf_eq h.names_nodup h.links_declared, Option.bind_some]

end Fits

/-! ## Statements -/

/-- The join of a statement along a link. -/
def linkClause (l : Link) : Join :=
  ⟨l.relation.kind, l.target.view, l.relation.tableAlias,
    .binary (.column Contract.baseAlias l.relation.localField) .equals
      (.column l.relation.tableAlias l.relation.targetField)⟩

/-- The statement of the plan of a scope, with some joins. -/
def selectWith (s : Scope) (joins : List Join) : Select where
  columns := s.plan.select.map s.column
  table := s.base.view
  tableAlias := Contract.baseAlias
  joins := joins
  condition := condition s
  order := order s
  limit := some s.plan.limit

/-- The statement of the plan of a scope, with joins along some links. -/
def selectOf (s : Scope) (links : List Link) : Select := selectWith s (links.map linkClause)

/-- A plan fails to compile if its resource or the target of a join is missing, and what is compiled otherwise is the
statement of its scope. -/
theorem compilePlan_eq (catalog : Catalog) (plan : ValidPlan) :
    compilePlan catalog plan =
      match catalog.lookup plan.resource, plan.joins.mapM (joinClause catalog) with
      | .error e, _ => .error e
      | .ok _, .error e => .error e
      | .ok base, .ok joins => .ok ⟨plan.resource, selectWith (scopeOf catalog.contract base plan) joins⟩ := by
  unfold compilePlan
  cases catalog.lookup plan.resource with
  | error e => rfl
  | ok base =>
      simp only [bind, Except.bind, foldl_enter]
      cases plan.joins.mapM (joinClause catalog) <;> rfl

/-- What compiles is a plan whose resource and joins are found. -/
theorem compilePlan_eq_ok_iff (catalog : Catalog) (plan : ValidPlan) (query : Query) :
    compilePlan catalog plan = .ok query ↔
      ∃ base joins, catalog.lookup plan.resource = .ok base ∧ plan.joins.mapM (joinClause catalog) = .ok joins
        ∧ query = ⟨plan.resource, selectWith (scopeOf catalog.contract base plan) joins⟩ := by
  rw [compilePlan_eq]
  cases catalog.lookup plan.resource with
  | error e => simp
  | ok base =>
      cases plan.joins.mapM (joinClause catalog) with
      | error e => simp
      | ok joins => simp [eq_comm]

/-- The targets of declared links are found, so their joins can be written down. -/
theorem mapM_joinClause {catalog : Catalog} {base : Contract.ResourceInfo} {links : List Link}
    (h : ∀ l ∈ links, l.IsDeclared catalog.contract base) :
    (links.map Link.join).mapM (joinClause catalog) = .ok (links.map linkClause) := by
  induction links with
  | nil => rfl
  | cons l rest ih =>
      have hl : joinClause catalog l.join = .ok (linkClause l) := by
        rw [joinClause, Link.join_targetResource, Catalog.lookup_eq_ok (h l List.mem_cons_self).2]
        rfl
      have hrest := ih (fun k hk => h k (List.mem_cons_of_mem _ hk))
      rw [List.map_cons, List.mapM_cons, hl, hrest]
      rfl

/-- A plan that fits the contract of a catalog compiles. -/
theorem compilePlan_eq_ok {catalog : Catalog} {base : Contract.ResourceInfo} {links : List Link} {plan : ValidPlan}
    (h : plan.Fits catalog.contract base links) :
    compilePlan catalog plan = .ok ⟨plan.resource, selectOf (scopeOf catalog.contract base plan) links⟩ := by
  have hjoins : plan.joins.mapM (joinClause catalog) = .ok (links.map linkClause) := by
    rw [h.joins_eq]
    exact mapM_joinClause h.links_declared
  rw [compilePlan_eq, Catalog.lookup_eq_ok h.base_declared, hjoins]
  rfl

/-- A plan as it is received compiles if it is accepted and what is accepted compiles. -/
theorem compileRaw_eq_ok_iff (catalog : Catalog) (raw : RawPlan) (plan : ValidPlan) (query : Query) :
    compileRaw catalog raw = .ok (plan, query) ↔
      validate catalog raw = .ok plan ∧ compilePlan catalog plan = .ok query := by
  unfold compileRaw
  cases validate catalog raw with
  | error e => simp [bind, Except.bind]
  | ok accepted =>
      simp only [bind, Except.bind, Except.ok.injEq]
      cases hcompiled : compilePlan catalog accepted with
      | error e =>
          simp only [reduceCtorEq, false_iff, not_and]
          rintro rfl hquery
          cases hcompiled.symm.trans hquery
      | ok compiled =>
          simp only [Except.ok.injEq, Prod.mk.injEq]
          refine and_congr_right ?_
          rintro rfl
          rw [hcompiled, Except.ok.injEq]

/-- The plan that is compiled is the one that is accepted, and it fits the contract. -/
theorem exists_fits_of_compileRaw {catalog : Catalog} {raw : RawPlan} {plan : ValidPlan} {query : Query}
    (h : compileRaw catalog raw = .ok (plan, query)) :
    ∃ base links, catalog.index.resolve raw.resource = some plan.resource ∧ plan.Fits catalog.contract base links
      ∧ query = ⟨plan.resource, selectOf (scopeOf catalog.contract base plan) links⟩ := by
  -- a plan that is accepted fits, and a plan that fits compiles
  obtain ⟨hvalid, hcompiled⟩ := (compileRaw_eq_ok_iff catalog raw plan query).1 h
  obtain ⟨base, links, hindex, hfits⟩ := exists_fits_of_validate hvalid
  rw [compilePlan_eq_ok hfits] at hcompiled
  exact ⟨base, links, hindex, hfits, (Except.ok.inj hcompiled).symm⟩

/-- A value compiles if it is an object and the plan in it does. -/
theorem compileValue_eq_ok_iff (catalog : Catalog) (v : Json.Value) (result : ValidPlan × Query) :
    compileValue catalog v = .ok result ↔ v.isObject = true ∧ compileRaw catalog (readPlan v) = .ok result := by
  cases v <;> simp [compileValue, RawPlan.ofValue, Json.Value.isObject]

end QueryGate.Compile
