import Mathlib.Data.List.Nodup
import QueryGate.Proofs.Compile.Scope
import QueryGate.Proofs.Contract.Consistency
import QueryGate.Proofs.Statement.ColumnRefs
/-!
Statements mention only what the contract declares. Whatever a plan says, the statement that it compiles to reads the
view of its base resource, joins along relations of that resource, and refers to columns that are declared fields of the
base or of a target that it joins. Where the contract passes its check, no alias stands for two tables, so each column
comes from exactly one of them.
-/
set_option autoImplicit false

namespace QueryGate.Compile

open Plan Statement

/-! ## What it means -/

/-- A column is declared: it is a field of the base under the base alias, or a field of the target of a link under the
alias of that link. -/
def IsDeclaredColumn (base : Contract.ResourceInfo) (links : List Link) (r : String × String) : Prop :=
  (r.1 = Contract.baseAlias ∧ base.hasField r.2 = true)
    ∨ ∃ l ∈ links, r.1 = l.relation.tableAlias ∧ l.target.hasField r.2 = true

/-- A statement mentions only what a contract declares: it reads the view of a base resource, its joins are those along
declared links in their order, and its columns are declared. -/
structure IsWhitelisted (c : Contract) (base : Contract.ResourceInfo) (links : List Link) (q : Select) : Prop where
  table_eq : q.table = base.view
  tableAlias_eq : q.tableAlias = Contract.baseAlias
  links_declared : ∀ l ∈ links, l.IsDeclared c base
  joins_eq : q.joins = links.map fun l =>
    ⟨l.relation.kind, l.target.view, l.relation.tableAlias,
      .binary (.column Contract.baseAlias l.relation.localField) .equals
        (.column l.relation.tableAlias l.relation.targetField)⟩
  columns_declared : ∀ r ∈ q.columnRefs, IsDeclaredColumn base links r

/-- A statement is the one of a plan in a scope that knows every reference of the plan: no relation lacks an alias and
no field lacks a type. -/
structure IsWithinScope (s : Scope) (plan : ValidPlan) (q : Select) : Prop where
  columns_eq : q.columns = plan.select.map s.column
  condition_eq : q.condition = condition s
  order_eq : q.order = order s
  alias_known : ∀ f ∈ plan.references, ∀ relation, f.relation = some relation →
    ∃ tableAlias, s.aliases.get? relation = some tableAlias
  type_known : ∀ f ∈ plan.references, ∃ info, s.field? f = some info

/-- What the aliases of a statement stand for. -/
def sources (base : Contract.ResourceInfo) (links : List Link) : List (String × Contract.ResourceInfo) :=
  (Contract.baseAlias, base) :: links.map fun l => (l.relation.tableAlias, l.target)

/-- No alias stands for two tables, and every column, those of the joins included, comes from exactly one of the sources
and is declared there. -/
structure IsUnambiguous (base : Contract.ResourceInfo) (links : List Link) (q : Select) : Prop where
  aliases_nodup : q.aliases.Nodup
  one_source : ∀ r ∈ q.columnRefs ++ q.joinColumnRefs,
    ∃ info, (sources base links).filter (fun s => s.1 = r.1) = [(r.1, info)] ∧ info.hasField r.2 = true

/-! ## Columns -/

section Fits

variable {c : Contract} {base : Contract.ResourceInfo} {links : List Link} {plan : ValidPlan}

/-- The column of a reference that leads somewhere is declared. -/
theorem isDeclaredColumn_of_leadsTo (h : plan.Fits c base links) {f : FieldRef} {info : Contract.ResourceInfo}
    (hf : LeadsTo base links f info) :
    ∀ r ∈ ((scopeOf c base plan).column f).columnRefs, IsDeclaredColumn base links r := by
  intro r hr
  cases hf with
  | base hfield =>
      rw [column_unqualified, Expression.columnRefs, List.mem_singleton] at hr
      rw [hr]
      exact .inl ⟨rfl, hfield⟩
  | link hl hfield =>
      rw [column_link h hl, Expression.columnRefs, List.mem_singleton] at hr
      rw [hr]
      exact .inr ⟨_, hl, rfl, hfield⟩

/-- The condition of a filter refers to the column of the filter and to no other. -/
theorem columnRefs_predicateCondition (s : Scope) (p : Predicate) :
    (predicateCondition s p).columnRefs = (s.column p.field).columnRefs := by
  unfold predicateCondition
  -- operands are made of parameters and casts, so only the column of the field is left
  cases p.comparison <;>
    simp [comparisonCondition, Expression.columnRefs, Expression.columnRefsOfAll, scalarOperand, arrayOperand,
      patternOperand]

/-- The condition of a plan refers to the columns of its filters. -/
theorem columnRefs_condition (s : Scope) :
    (condition s).columnRefs = s.plan.filters.flatMap fun p => (s.column p.field).columnRefs := by
  rw [condition, columnRefs_conjunction, List.flatMap_map]
  simp only [columnRefs_predicateCondition]

/-- The order of a plan refers to the columns of its keys, or to a discount that the base declares. -/
theorem mem_columnRefs_order {s : Scope} {r : String × String}
    (h : r ∈ (order s).flatMap fun k => k.subject.columnRefs) :
    (∃ k ∈ s.plan.sort, r ∈ (s.column k.field).columnRefs)
      ∨ (s.base.hasField discountField = true ∧ r ∈ (s.column ⟨none, discountField⟩).columnRefs) := by
  unfold order at h
  split at h
  · -- the order by discounts is no reference of the plan, but it is asked for only if the base declares the field
    by_cases hbounds : boundsDiscount s = true
    · rw [if_pos hbounds, List.flatMap_singleton] at h
      rw [boundsDiscount, Bool.and_eq_true] at hbounds
      exact .inr ⟨hbounds.1, h⟩
    · rw [if_neg hbounds] at h
      exact absurd h List.not_mem_nil
  · rename_i k ks hsort
    rw [List.flatMap_map, List.mem_flatMap] at h
    rw [hsort]
    exact .inl h

/-- The statement of a plan that fits mentions only what the contract declares. -/
theorem isWhitelisted_of_fits (h : plan.Fits c base links) :
    IsWhitelisted c base links (selectOf (scopeOf c base plan) links) where
  table_eq := rfl
  tableAlias_eq := rfl
  links_declared := h.links_declared
  joins_eq := rfl
  columns_declared := by
    intro r hr
    have declared : ∀ f ∈ plan.references, r ∈ ((scopeOf c base plan).column f).columnRefs →
        IsDeclaredColumn base links r := by
      intro f hf hr
      obtain ⟨info, hlead⟩ := h.references_lead f hf
      exact isDeclaredColumn_of_leadsTo h hlead r hr
    rw [Select.columnRefs, List.mem_append, List.mem_append] at hr
    rcases hr with (hr | hr) | hr
    · rw [List.mem_flatMap] at hr
      obtain ⟨e, he, hr⟩ := hr
      obtain ⟨f, hf, rfl⟩ := List.mem_map.1 he
      exact declared f (List.mem_append_left _ (List.mem_append_left _ hf)) hr
    · rw [selectOf, selectWith, columnRefs_condition, List.mem_flatMap] at hr
      obtain ⟨p, hp, hr⟩ := hr
      exact declared p.field (List.mem_append_left _ (List.mem_append_right _ (List.mem_map_of_mem hp))) hr
    · rcases mem_columnRefs_order hr with ⟨k, hk, hr⟩ | ⟨hdiscount, hr⟩
      · exact declared k.field (List.mem_append_right _ (List.mem_map_of_mem hk)) hr
      · exact isDeclaredColumn_of_leadsTo h (.base hdiscount) r hr

/-- The scope in which a plan that fits is compiled knows every reference of it. -/
theorem isWithinScope_of_fits (h : plan.Fits c base links) :
    IsWithinScope (scopeOf c base plan) plan (selectOf (scopeOf c base plan) links) where
  columns_eq := rfl
  condition_eq := rfl
  order_eq := rfl
  alias_known := by
    intro f hf relation hrelation
    obtain ⟨info, hlead⟩ := h.references_lead f hf
    cases hlead with
    | base _ => cases hrelation
    | link hl _ =>
        cases hrelation
        exact ⟨_, get?_aliases_scopeOf h hl⟩
  type_known := by
    intro f hf
    obtain ⟨info, hlead⟩ := h.references_lead f hf
    rw [field?_scopeOf h hlead]
    exact (NameTable.contains_eq_true_iff _ _).1 hlead.hasField

/-! ## One table for each alias -/

/-- The aliases of a statement are the base alias and those of its links. -/
theorem aliases_selectOf (s : Scope) :
    (selectOf s links).aliases = Contract.baseAlias :: links.map fun l => l.relation.tableAlias := by
  rw [Select.aliases, selectOf, selectWith, List.map_map]
  rfl

/-- The sources of a statement stand under its aliases. -/
theorem map_fst_sources :
    (sources base links).map Prod.fst = Contract.baseAlias :: links.map fun l => l.relation.tableAlias := by
  rw [sources, List.map_cons, List.map_map]
  rfl

/-- In a consistent resource the aliases of distinct links differ from each other and from the base alias. -/
theorem nodup_aliases (hbase : base.IsConsistent c) (hlinks : ∀ l ∈ links, l.IsDeclared c base)
    (hnames : (links.map (·.name)).Nodup) : (Contract.baseAlias :: links.map fun l => l.relation.tableAlias).Nodup := by
  have hentry : ∀ l ∈ links, (l.name, l.relation) ∈ base.relations.entries := fun l hl =>
    (base.relations.get?_eq_some_iff_mem l.name l.relation).1 (hlinks l hl).1
  obtain ⟨hfree, hnodup⟩ := List.nodup_cons.1 hbase.aliases_nodup
  rw [List.nodup_cons]
  constructor
  · intro hmem
    obtain ⟨l, hl, heq⟩ := List.mem_map.1 hmem
    exact hfree (List.mem_map.2 ⟨_, hentry l hl, heq⟩)
  · -- links with one alias are one entry of the relations, and so have one name
    have hpairs := List.pairwise_map.1 hnames
    refine List.pairwise_map.2 (hpairs.imp_of_mem ?_)
    intro l k hl hk hne heq
    have hsame := List.inj_on_of_nodup_map hnodup (hentry l hl) (hentry k hk) heq
    exact hne (congrArg Prod.fst hsame)

/-- In a consistent resource the scope of a plan knows the aliases of its statement and no others exactly if no link has
the name of the base: through a link of that name the base alias is lost. -/
theorem containsAlias_iff_mem_aliases_iff (h : plan.Fits c base links) (hbase : base.IsConsistent c) :
    (∀ tableAlias, (scopeOf c base plan).aliases.containsAlias tableAlias = true ↔
        tableAlias ∈ (selectOf (scopeOf c base plan) links).aliases) ↔
      plan.resource ∉ links.map (·.name) := by
  have hfree := (List.nodup_cons.1 (nodup_aliases hbase h.links_declared h.names_nodup)).1
  simp only [containsAlias_scopeOf_iff h, aliases_selectOf, List.mem_cons]
  constructor
  · intro hknown
    exact (((hknown Contract.baseAlias).2 (.inl rfl)).resolve_left hfree).1
  · intro hown tableAlias
    rw [and_iff_right hown, or_comm]

/-- Among pairs with distinct first parts, one is picked out by its first part. -/
theorem filter_fst_eq {α : Type} {pairs : List (String × α)} (h : (pairs.map Prod.fst).Nodup) {name : String}
    {value : α} (hmem : (name, value) ∈ pairs) : pairs.filter (fun s => s.1 = name) = [(name, value)] := by
  induction pairs with
  | nil => exact absurd hmem List.not_mem_nil
  | cons e rest ih =>
      rw [List.map_cons, List.nodup_cons] at h
      rw [List.filter_cons]
      rcases List.mem_cons.1 hmem with rfl | hmem
      · have hnone : rest.filter (fun s => s.1 = name) = [] := by
          rw [List.filter_eq_nil_iff]
          intro s hs heq
          exact h.1 (List.mem_map.2 ⟨s, hs, of_decide_eq_true heq⟩)
        rw [if_pos (by simp), hnone]
      · have hne : e.1 ≠ name := fun heq => h.1 (List.mem_map.2 ⟨_, hmem, heq.symm⟩)
        rw [if_neg (by simpa using hne), ih h.2 hmem]

/-- A declared column comes from a source that declares it. -/
theorem IsDeclaredColumn.exists_source {r : String × String} (h : IsDeclaredColumn base links r) :
    ∃ info, (r.1, info) ∈ sources base links ∧ info.hasField r.2 = true := by
  rcases h with ⟨hr, hfield⟩ | ⟨l, hl, hr, hfield⟩
  · exact ⟨base, hr ▸ List.mem_cons_self, hfield⟩
  · exact ⟨l.target, hr ▸ List.mem_cons_of_mem _ (List.mem_map_of_mem hl), hfield⟩

/-- In a consistent resource the columns on which links join are declared. -/
theorem isDeclaredColumn_of_mem_joinColumnRefs (hbase : base.IsConsistent c) (hlinks : ∀ l ∈ links, l.IsDeclared c base)
    {s : Scope} {r : String × String} (hr : r ∈ (selectOf s links).joinColumnRefs) : IsDeclaredColumn base links r := by
  simp only [Select.joinColumnRefs, selectOf, selectWith, List.flatMap_map, List.mem_flatMap, linkClause,
    Expression.columnRefs, List.cons_append, List.nil_append, List.mem_cons, List.not_mem_nil, or_false] at hr
  obtain ⟨l, hl, hr⟩ := hr
  have hentry := (base.relations.get?_eq_some_iff_mem l.name l.relation).1 (hlinks l hl).1
  rcases hr with rfl | rfl
  · exact .inl ⟨rfl, hbase.local_declared _ hentry⟩
  · obtain ⟨target, htarget, hfield⟩ := hbase.target_declared _ hentry
    -- what the check found under the name of the target is what the link leads to
    have hsame : target = l.target := Option.some.inj (htarget.symm.trans (hlinks l hl).2)
    exact .inr ⟨l, hl, rfl, hsame ▸ hfield⟩

/-- In the statement of a plan that fits a consistent resource every column comes from exactly one source. -/
theorem isUnambiguous_of_fits (h : plan.Fits c base links) (hbase : base.IsConsistent c) :
    IsUnambiguous base links (selectOf (scopeOf c base plan) links) := by
  have hnodup := nodup_aliases hbase h.links_declared h.names_nodup
  refine ⟨aliases_selectOf (scopeOf c base plan) ▸ hnodup, ?_⟩
  intro r hr
  -- what the plan refers to is declared in any contract, and what its joins refer to in a consistent one
  have hdeclared : IsDeclaredColumn base links r := by
    rcases List.mem_append.1 hr with hr | hr
    · exact (isWhitelisted_of_fits h).columns_declared r hr
    · exact isDeclaredColumn_of_mem_joinColumnRefs hbase h.links_declared hr
  obtain ⟨info, hsource, hfield⟩ := hdeclared.exists_source
  exact ⟨info, filter_fst_eq (map_fst_sources ▸ hnodup) hsource, hfield⟩

end Fits

/-! ## Every statement that is compiled -/

/-- Whatever a value asks for, if it compiles then the statement mentions only what the contract declares about the
resource that it names, and no reference of the plan takes the fallback of an alias or of a type. If the contract passes
its check, every column of the statement comes from exactly one source besides. -/
theorem isWhitelisted_of_compileValue (c : Contract) (v : Json.Value) (plan : ValidPlan) (query : Query)
    (h : compileValue (.ofContract c) v = .ok (plan, query)) :
    ∃ base links, (Index.ofContract c).resolve (textOfMember v "resource") = some query.root
      ∧ c.resource? query.root = some base
      ∧ IsWhitelisted c base links query.select
      ∧ IsWithinScope (scopeOf c base plan) plan query.select
      ∧ (Contract.check c = .ok () → IsUnambiguous base links query.select) := by
  obtain ⟨hobject, hraw⟩ := (compileValue_eq_ok_iff _ v _).1 h
  obtain ⟨base, links, hindex, hfits, rfl⟩ := exists_fits_of_compileRaw hraw
  refine ⟨base, links, hindex, hfits.base_declared, isWhitelisted_of_fits hfits, isWithinScope_of_fits hfits, ?_⟩
  intro hcheck
  exact isUnambiguous_of_fits hfits (Contract.isConsistent_of_check hcheck hfits.base_declared)

/-- A plan for books with their sequels, which are joined through a relation of the name of the base. -/
def sequelsPlan : Json.Value :=
  .object [("joins", .list [.object [("resource", .string "Book")], .object [("resource", .string "Shelf")]]),
    ("resource", .string "books"), ("select", .list [.string "id", .string "Book.id", .string "Shelf.room"]),
    ("where", .list [.object [("field", .string "Book.discount"), ("op", .string "gt"),
      ("value", .number (.natural 5))]])]

/-- The statement for books with their sequels mentions only what the contract declares. -/
theorem isWhitelisted_sequels :
    ∃ plan query base links, compileValue (.ofContract Contract.Library.contract) sequelsPlan = .ok (plan, query)
      ∧ IsWhitelisted Contract.Library.contract base links query.select ∧ IsUnambiguous base links query.select := by
  have hcompiled : ∃ result, compileValue (.ofContract Contract.Library.contract) sequelsPlan = .ok result := ⟨_, rfl⟩
  obtain ⟨⟨plan, query⟩, h⟩ := hcompiled
  obtain ⟨base, links, -, -, hwhitelisted, -, hunambiguous⟩ := isWhitelisted_of_compileValue _ _ plan query h
  exact ⟨plan, query, base, links, h, hwhitelisted, hunambiguous rfl⟩

end QueryGate.Compile
