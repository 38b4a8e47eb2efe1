import QueryGate.Proofs.Compile.Whitelist
import QueryGate.Proofs.Meaning.Plan
import QueryGate.Proofs.Meaning.Select
/-!
A statement answers what its plan asks for.

The plan knows rows under the names of relations, the statement under aliases. Both are read off an `Extended` row,
which carries the links along which it was extended: joins, conditions, orders and selections are taken from both
sides to these rows, and there they are the same.
-/
set_option autoImplicit false

namespace QueryGate.Meaning

open Json Plan Statement Compile

variable {V : Type}

/-- A row of the base resource with the rows to which it is extended along some links. -/
structure Extended (V : Type) where
  base : Row V
  along : List (Link × Row V)

namespace Extended

/-- The links along which a row is extended. -/
def links (e : Extended V) : List Link := e.along.map Prod.fst

/-- The row as a statement knows it. -/
def env (e : Extended V) : Env V :=
  (Contract.baseAlias, e.base) :: e.along.map fun s => (s.1.relation.tableAlias, s.2)

/-- The row as a plan knows it. -/
def planRow (e : Extended V) : PlanRow V := ⟨e.base, e.along.map fun s => (s.1.name, s.2)⟩

/-- The row extended along one more link. -/
def extend (e : Extended V) (l : Link) (row : Row V) : Extended V := { e with along := e.along ++ [(l, row)] }

@[simp] theorem links_extend (e : Extended V) (l : Link) (row : Row V) : (e.extend l row).links = e.links ++ [l] := by
  simp [links, extend]

@[simp] theorem env_extend (e : Extended V) (l : Link) (row : Row V) :
    (e.extend l row).env = e.env ++ [(l.relation.tableAlias, row)] := by
  simp [env, extend]

@[simp] theorem planRow_extend (e : Extended V) (l : Link) (row : Row V) :
    (e.extend l row).planRow = e.planRow.extend l.name row := by
  simp [planRow, extend, PlanRow.extend]

/-- The aliases under which a statement knows the row. -/
theorem map_fst_env (e : Extended V) :
    e.env.map Prod.fst = Contract.baseAlias :: e.links.map fun l => l.relation.tableAlias := by
  simp [env, links]

end Extended

/-! ## Reading a reference -/

section Reading

variable {e : Extended V}

/-- Where no alias stands for two rows, the base alias leads to the base row. -/
theorem lookup_env_base (hnodup : (e.env.map Prod.fst).Nodup) : e.env.lookup Contract.baseAlias = some e.base :=
  (NameTable.lookup_eq_some_iff_mem hnodup _ _).2 List.mem_cons_self

/-- Where no alias stands for two rows, the alias of a link leads to the row that was reached along it. -/
theorem lookup_env_link (hnodup : (e.env.map Prod.fst).Nodup) {s : Link × Row V} (hs : s ∈ e.along) :
    e.env.lookup s.1.relation.tableAlias = some s.2 :=
  (NameTable.lookup_eq_some_iff_mem hnodup _ _).2 (List.mem_cons_of_mem _ (List.mem_map.2 ⟨s, hs, rfl⟩))

/-- Where no relation is joined twice, its name leads to the row that was reached along it. -/
theorem lookup_related_link (hnodup : (e.links.map (·.name)).Nodup) {s : Link × Row V} (hs : s ∈ e.along) :
    e.planRow.related.lookup s.1.name = some s.2 := by
  apply (NameTable.lookup_eq_some_iff_mem ?_ _ _).2
  · exact List.mem_map.2 ⟨s, hs, rfl⟩
  · rw [Extended.links, List.map_map] at hnodup
    rw [Extended.planRow, List.map_map]
    exact hnodup

end Reading

section Fits

variable {c : Contract} {base : Contract.ResourceInfo} {links : List Link} {plan : ValidPlan} {db : Database V}

/-- The aliases of rows that are extended along all links are distinct in a consistent resource. -/
theorem nodup_env (h : plan.Fits c base links) (hbase : base.IsConsistent c) {e : Extended V} (he : e.links = links) :
    (e.env.map Prod.fst).Nodup := by
  rw [Extended.map_fst_env, he]
  exact nodup_aliases hbase h.links_declared h.names_nodup

/-- The column of a reference is what the plan reads. -/
theorem value_column (h : plan.Fits c base links) (hbase : base.IsConsistent c) {e : Extended V} (he : e.links = links)
    {f : FieldRef} {info : Contract.ResourceInfo} (hf : LeadsTo base links f info) :
    value db e.env ((scopeOf c base plan).column f) = .single (e.planRow.read f) := by
  have hnodup := nodup_env h hbase he
  cases hf with
  | base _ =>
      rw [column_unqualified, value, lookup_env_base hnodup]
      rfl
  | @link l field hl _ =>
      -- the plan finds the row under the name of the relation, the statement under its alias
      obtain ⟨s, hs, rfl⟩ := List.mem_map.1 (he ▸ hl : l ∈ e.links)
      have hnames : (e.links.map (·.name)).Nodup := he ▸ h.names_nodup
      rw [column_link h hl, value, lookup_env_link hnodup hs, PlanRow.read]
      simp only [lookup_related_link hnames hs]

end Fits

/-! ## Filters -/

section Filters

variable {c : Contract} {base : Contract.ResourceInfo} {links : List Link} {plan : ValidPlan} (db : Database V)

/-- The database type of a field is that of its semantic type. -/
theorem cast_baseTypeOf (type : Contract.FieldType) : db.cast (baseTypeOf type) = db.ofFieldType type := by
  cases type <;> rfl

/-- A value that is cast to the type of a field is the operand of that type. -/
theorem value_scalarOperand (env : Env V) (type : Contract.FieldType) (v : Value) :
    value db env (scalarOperand type v) = .single (db.operand type v) := by
  rw [scalarOperand, value, value, Database.castTo, cast_baseTypeOf]
  cases v with
  | list items =>
      simp only [Database.received, Guard.Bound.ofValue, Database.scalar, List.map_map, Option.map_some]
      rfl
  | _ => rfl

/-- The items of a value that is cast to an array of the type of a field are its items as operands of that type. -/
theorem itemsOf_arrayOperand (env : Env V) (type : Contract.FieldType) (v : Value) :
    db.itemsOf (value db env (arrayOperand type v)) = (Compile.itemsOf v).map (db.item type) := by
  rw [arrayOperand, value, value, Database.castTo, cast_baseTypeOf]
  simp only [Database.received, Guard.Bound.ofValue, Database.itemsOf, List.map_map]
  apply List.map_congr_left
  intro item _
  simp only [Function.comp_apply, Database.receivedText, Database.item, Option.map_map]
  rfl

/-- Nothing is known of a comparison with null. -/
theorem compareValues_none (operator : Operator) (x : Option V) : db.compareValues operator x none = .unknown := by
  cases x <;> rfl

/-- A range holds as its two bounds do; what is no pair has null at both ends. -/
theorem holds_between (type : Contract.FieldType) (x : Option V) (v : Value) :
    db.holds type x v .between =
      (db.compareValues .greaterOrEqual x (db.operand type (rangeBounds v).1)).and
        (db.compareValues .lessOrEqual x (db.operand type (rangeBounds v).2)) := by
  fun_cases rangeBounds v with
  | case1 low high => rfl
  | case2 =>
      -- both bounds are null, and of a comparison with null nothing is known
      rename_i hpair
      rw [Database.holds, Database.operand, compareValues_none, compareValues_none]
      · rfl
      · exact hpair

/-- One of some values is met if one of the items is. -/
theorem holds_isIn (type : Contract.FieldType) (x : Option V) (v : Value) :
    db.holds type x v .isIn =
      .any ((Compile.itemsOf v).map fun item => db.compareValues .equals x (db.item type item)) := by
  cases v with
  | list items => rfl
  | _ => exact (Truth.any_singleton _).symm

/-- The condition of a comparison is true, false or unknown as the comparison of the value itself is. -/
theorem truthOf_comparisonCondition {env : Env V} {column : Expression} {x : Option V}
    (hcolumn : value db env column = .single x) (type : Contract.FieldType) (v : Value) (comparison : Comparison) :
    db.truthOf (value db env (comparisonCondition column type v comparison)) = db.holds type x v comparison := by
  cases comparison with
  | eq | gt | lt | gte | lte =>
      rw [comparisonCondition, value, hcolumn, value_scalarOperand]
      rfl
  | contains =>
      rw [comparisonCondition, value, hcolumn, patternOperand]
      cases v <;> rfl
  | startsWith =>
      rw [comparisonCondition, value, hcolumn, patternOperand, String.empty_append]
      cases v <;> rfl
  | between =>
      rw [comparisonCondition, value, hcolumn, value_scalarOperand, value_scalarOperand, holds_between]
      rfl
  | isIn =>
      rw [comparisonCondition, value, hcolumn, value, itemsOfAll, itemsOfAll, itemsOf_arrayOperand, List.append_nil,
        holds_isIn]
      simp only [Database.truthOf, Database.compareWith, Database.scalar, List.map_map]
      rfl

/-- A filter of the plan holds on a row exactly if its condition is true there. -/
theorem isTrueOn_predicateCondition (h : plan.Fits c base links) (hbase : base.IsConsistent c) {e : Extended V}
    (he : e.links = links) {q : Predicate} (hq : q ∈ plan.filters) :
    isTrueOn db (predicateCondition (scopeOf c base plan) q) e.env = filterHolds c base plan db e.planRow q := by
  have hmem : q.field ∈ plan.references := List.mem_append_left _ (List.mem_append_right _ (List.mem_map_of_mem hq))
  obtain ⟨info, hlead⟩ := h.references_lead q.field hmem
  obtain ⟨field, hfield⟩ := (NameTable.contains_eq_true_iff _ _).1 hlead.hasField
  -- the type exists on both sides, so neither falls back to text
  have htype : typeOf (scopeOf c base plan) q.field = field.type := by
    rw [typeOf, field?_scopeOf h hlead, hfield]
    rfl
  have hresource :
      (resourceOf c base plan.joins q.field).bind (fun info => info.fields.get? q.field.field) = some field := by
    rw [h.joins_eq, hlead.resourceOf_eq h.names_nodup h.links_declared, Option.bind_some, hfield]
  rw [isTrueOn, predicateCondition, htype, truthOf_comparisonCondition db (value_column h hbase he hlead), filterHolds]
  simp only [hresource]

/-- The condition of a plan is true on a row exactly if every filter of the plan holds there. -/
theorem isTrueOn_condition (h : plan.Fits c base links) (hbase : base.IsConsistent c) {e : Extended V}
    (he : e.links = links) :
    isTrueOn db (condition (scopeOf c base plan)) e.env = plan.filters.all (filterHolds c base plan db e.planRow) := by
  rw [Bool.eq_iff_iff, condition, isTrueOn_conjunction, List.all_eq_true, List.forall_mem_map]
  constructor
  · intro htrue q hq
    rw [← isTrueOn_predicateCondition db h hbase he hq]
    exact htrue q hq
  · intro hholds q hq
    rw [isTrueOn_predicateCondition db h hbase he hq]
    exact hholds q hq

end Filters

/-! ## Orders -/

section Orders

variable {c : Contract} {base : Contract.ResourceInfo} {links : List Link} {plan : ValidPlan} (db : Database V)

/-- The keys of a plan become the order of its statement, the default one included. -/
theorem order_scopeOf (c : Contract) (base : Contract.ResourceInfo) (plan : ValidPlan) :
    order (scopeOf c base plan) =
      (sortKeys base plan).map fun k => ⟨(scopeOf c base plan).column k.field, directionOf k.direction⟩ := by
  have hplan : (scopeOf c base plan).plan.sort = plan.sort := rfl
  have hdefault : boundsDiscount (scopeOf c base plan) =
      (base.hasField "discount"
        && plan.filters.any fun q => q.field.field = "discount" && (q.comparison = .gt || q.comparison = .gte)) := rfl
  rw [order, sortKeys, hplan, hdefault]
  cases plan.sort with
  | nil =>
      simp only
      split <;> rfl
  | cons k rest => rfl

/-- Every key of the order of an accepted plan leads to a declared field. -/
theorem exists_leadsTo_sortKeys (h : plan.Fits c base links) {k : SortKey} (hk : k ∈ sortKeys base plan) :
    ∃ info, LeadsTo base links k.field info := by
  rw [sortKeys] at hk
  split at hk
  · split at hk
    · rename_i hdefault
      rw [List.mem_singleton] at hk
      rw [Bool.and_eq_true] at hdefault
      exact ⟨base, hk ▸ .base hdefault.1⟩
    · exact absurd hk List.not_mem_nil
  · exact h.references_lead k.field (List.mem_append_right _ (List.mem_map_of_mem hk))

/-- Rows compare by a key of the statement as they do by the key of the plan. -/
theorem keyOrder_column (h : plan.Fits c base links) (hbase : base.IsConsistent c) {k : SortKey}
    (hk : k ∈ sortKeys base plan) {a b : Extended V} (ha : a.links = links) (hb : b.links = links) :
    keyOrder db ⟨(scopeOf c base plan).column k.field, directionOf k.direction⟩ a.env b.env =
      sortOrder db k a.planRow b.planRow := by
  obtain ⟨info, hlead⟩ := exists_leadsTo_sortKeys h hk
  rw [keyOrder, sortOrder, value_column h hbase ha hlead, value_column h hbase hb hlead]
  cases k.direction <;> rfl

end Orders

/-! ## Joins -/

section Joins

variable (db : Database V)

/-- Rows extended along a link to the rows of its target that match them. -/
def extendRows (rows : List (Extended V)) (l : Link) : List (Extended V) :=
  rows.flatMap fun e =>
    (partners l.relation.kind (db.rows l.target.view) fun row =>
      db.compareValues .equals (e.base l.relation.localField) (row l.relation.targetField) = .yes).map (e.extend l)

/-- Rows that are extended along a link carry it besides those that they carried before. -/
theorem links_of_mem_extendRows {known : List Link} {rows : List (Extended V)} (h : ∀ e ∈ rows, e.links = known)
    (l : Link) : ∀ e ∈ extendRows db rows l, e.links = known ++ [l] := by
  intro e he
  obtain ⟨e, hmem, he⟩ := List.mem_flatMap.1 he
  obtain ⟨row, -, rfl⟩ := List.mem_map.1 he
  rw [Extended.links_extend, h e hmem]

/-- Rows that are extended along some links carry these links. -/
theorem links_of_mem_foldl {known links : List Link} {rows : List (Extended V)} (h : ∀ e ∈ rows, e.links = known) :
    ∀ e ∈ links.foldl (extendRows db) rows, e.links = known ++ links := by
  induction links generalizing known rows with
  | nil => simpa using h
  | cons l rest ih =>
      rw [List.append_cons]
      exact ih (links_of_mem_extendRows db h l)

/-- A plan extends its rows along the join of a link. -/
theorem extendAlong_join {c : Contract} {l : Link} (hl : c.resource? l.relation.targetResource = some l.target)
    (rows : List (Extended V)) :
    extendAlong c db (rows.map Extended.planRow) l.join = some ((extendRows db rows l).map Extended.planRow) := by
  rw [extendAlong, Link.join_targetResource, hl, Option.map_some, List.flatMap_map, extendRows, List.map_flatMap]
  simp only [List.map_map, Function.comp_def, Extended.planRow_extend]
  rfl

/-- A plan extends its rows along its links from the first to the last. -/
theorem foldlM_extendAlong {c : Contract} {base : Contract.ResourceInfo} {links : List Link}
    (hlinks : ∀ l ∈ links, l.IsDeclared c base) (rows : List (Extended V)) :
    (links.map Link.join).foldlM (extendAlong c db) (rows.map Extended.planRow) =
      some ((links.foldl (extendRows db) rows).map Extended.planRow) := by
  induction links generalizing rows with
  | nil => rfl
  | cons l rest ih =>
      have hrest := ih (fun k hk => hlinks k (List.mem_cons_of_mem _ hk))
      rw [List.map_cons, List.foldlM_cons, extendAlong_join db (hlinks l List.mem_cons_self).2]
      exact hrest _

/-- The condition of a join compares the field of the base row with that of the row that is joined. -/
theorem isTrueOn_linkClause {e : Extended V} {l : Link} {row : Row V}
    (hnodup : ((e.extend l row).env.map Prod.fst).Nodup) :
    isTrueOn db (linkClause l).condition (e.extend l row).env =
      decide (db.compareValues .equals (e.base l.relation.localField) (row l.relation.targetField) = .yes) := by
  have hmem : (l, row) ∈ (e.extend l row).along := List.mem_append_right _ List.mem_cons_self
  rw [isTrueOn, linkClause, value, value, value, lookup_env_base hnodup, lookup_env_link hnodup hmem]
  rfl

/-- A statement joins its rows along the clause of a link. -/
theorem joinTable_linkClause {known : List Link} {l : Link}
    (hnodup : (Contract.baseAlias :: (known ++ [l]).map fun l => l.relation.tableAlias).Nodup)
    {rows : List (Extended V)} (hrows : ∀ e ∈ rows, e.links = known) :
    joinTable db (rows.map Extended.env) (linkClause l) = (extendRows db rows l).map Extended.env := by
  rw [joinTable, List.flatMap_map, extendRows, List.map_flatMap]
  -- the same rows match, since the condition of the clause compares the fields of the link
  apply List.flatMap_congr
  intro e he
  have hcondition : ∀ row : Row V, isTrueOn db (linkClause l).condition (e.env ++ [((linkClause l).tableAlias, row)]) =
      decide (db.compareValues .equals (e.base l.relation.localField) (row l.relation.targetField) = .yes) := by
    intro row
    have hdistinct : ((e.extend l row).env.map Prod.fst).Nodup := by
      rw [Extended.map_fst_env, Extended.links_extend, hrows e he]
      exact hnodup
    rw [← isTrueOn_linkClause db hdistinct, Extended.env_extend]
    rfl
  simp only [hcondition, List.map_map, Function.comp_def, Extended.env_extend]
  rfl

/-- A statement joins its rows along the clauses of its links from the first to the last. -/
theorem foldl_joinTable {known links : List Link}
    (hnodup : (Contract.baseAlias :: (known ++ links).map fun l => l.relation.tableAlias).Nodup)
    {rows : List (Extended V)} (hrows : ∀ e ∈ rows, e.links = known) :
    (links.map linkClause).foldl (joinTable db) (rows.map Extended.env) =
      (links.foldl (extendRows db) rows).map Extended.env := by
  -- the links that are joined already move from the list to `known`, so the aliases stay distinct as a whole
  induction links generalizing known rows with
  | nil => rfl
  | cons l rest ih =>
      rw [List.append_cons] at hnodup
      have hprefix : (Contract.baseAlias :: (known ++ [l]).map fun l => l.relation.tableAlias).Nodup :=
        hnodup.sublist (((List.sublist_append_left _ _).map _).cons_cons _)
      rw [List.map_cons, List.foldl_cons, List.foldl_cons, joinTable_linkClause db hprefix hrows]
      exact ih hnodup (links_of_mem_extendRows db hrows l)

end Joins

/-! ## Statements -/

section Statements

variable {c : Contract} {base : Contract.ResourceInfo} {links : List Link} {plan : ValidPlan}

/-- Joins along links with new and distinct aliases can be read from left to right. -/
theorem joinsScoped_linkClauses {known : List String} {links : List Link}
    (hnodup : (known ++ links.map fun l => l.relation.tableAlias).Nodup) (hbase : Contract.baseAlias ∈ known) :
    joinsScoped known (links.map linkClause) = true := by
  induction links generalizing known with
  | nil => rfl
  | cons l rest ih =>
      rw [List.map_cons, List.append_cons] at hnodup
      have hnew : l.relation.tableAlias ∉ known := by
        have hprefix := (List.nodup_append.1 hnodup).1
        exact fun hmem => (List.nodup_append.1 hprefix).2.2 _ hmem _ List.mem_cons_self rfl
      have hrest := ih hnodup (List.mem_append_left _ hbase)
      rw [List.map_cons, joinsScoped, Bool.and_eq_true, Bool.and_eq_true]
      refine ⟨⟨?_, ?_⟩, hrest⟩
      · simpa [linkClause] using hnew
      · simp [linkClause, Expression.columnRefs, hbase]

/-- In the statement of a plan that fits a consistent resource every alias is given once and every column is known. -/
theorem isScoped_selectOf (h : plan.Fits c base links) (hbase : base.IsConsistent c) :
    isScoped (selectOf (scopeOf c base plan) links) = true := by
  rw [isScoped, Bool.and_eq_true, List.all_eq_true]
  constructor
  · exact joinsScoped_linkClauses (nodup_aliases hbase h.links_declared h.names_nodup) List.mem_cons_self
  · intro r hr
    obtain ⟨info, hmem, -⟩ := ((isWhitelisted_of_fits h).columns_declared r hr).exists_source
    rw [List.contains_iff_mem, aliases_selectOf, ← map_fst_sources]
    exact List.mem_map.2 ⟨_, hmem, rfl⟩

/-- The rows of a resource before they are extended. -/
def baseRows (db : Database V) (base : Contract.ResourceInfo) : List (Extended V) :=
  (db.rows base.view).map fun row => ⟨row, []⟩

/-- The rows of a plan before its filters. -/
def extendedRows (db : Database V) (base : Contract.ResourceInfo) (links : List Link) : List (Extended V) :=
  links.foldl (extendRows db) (baseRows db base)

/-- The rows that a plan asks for: those on which its filters hold, in its order and up to its limit. -/
def resultRows (db : Database V) (c : Contract) (base : Contract.ResourceInfo) (links : List Link) (plan : ValidPlan) :
    List (Extended V) :=
  let kept := (extendedRows db base links).filter fun e => plan.filters.all (filterHolds c base plan db e.planRow)
  (sortBy ((sortKeys base plan).map fun k a b => sortOrder db k a.planRow b.planRow) kept).take plan.limit

variable (db : Database V)

theorem links_of_mem_baseRows {e : Extended V} (he : e ∈ baseRows db base) : e.links = [] := by
  obtain ⟨row, -, rfl⟩ := List.mem_map.1 he
  rfl

/-- The rows of a plan carry all its links. -/
theorem links_of_mem_extendedRows {e : Extended V} (he : e ∈ extendedRows db base links) : e.links = links := by
  have hlinks := links_of_mem_foldl db (fun e (he : e ∈ baseRows db base) => links_of_mem_baseRows db he) e he
  rw [hlinks, List.nil_append]

/-- The rows that a plan asks for carry all its links. -/
theorem links_of_mem_resultRows {e : Extended V} (he : e ∈ resultRows db c base links plan) : e.links = links :=
  links_of_mem_extendedRows db (List.mem_of_mem_filter (mem_of_mem_sortBy (List.mem_of_mem_take he)))

/-- A statement joins the rows of its plan. -/
theorem joinedRows_selectOf (h : plan.Fits c base links) (hbase : base.IsConsistent c) :
    joinedRows db (selectOf (scopeOf c base plan) links) = (extendedRows db base links).map Extended.env := by
  have hbaseRows :
      (db.rows base.view).map (fun row => [(Contract.baseAlias, row)]) = (baseRows db base).map Extended.env := by
    rw [baseRows, List.map_map]
    rfl
  have hnodup := nodup_aliases hbase h.links_declared h.names_nodup
  rw [← List.nil_append links] at hnodup
  rw [extendedRows, ← foldl_joinTable db hnodup fun e he => links_of_mem_baseRows db he, ← hbaseRows]
  rfl

/-- The condition of a statement keeps the rows on which the filters of its plan hold. -/
theorem filter_condition (h : plan.Fits c base links) (hbase : base.IsConsistent c) :
    ((extendedRows db base links).map Extended.env).filter (isTrueOn db (condition (scopeOf c base plan))) =
      ((extendedRows db base links).filter fun e =>
        plan.filters.all (filterHolds c base plan db e.planRow)).map Extended.env := by
  rw [List.filter_map]
  congr 1
  apply List.filter_congr
  intro e he
  exact isTrueOn_condition db h hbase (links_of_mem_extendedRows db he)

/-- The order of a statement puts rows as the keys of its plan do. -/
theorem sortBy_order (h : plan.Fits c base links) (hbase : base.IsConsistent c) {rows : List (Extended V)}
    (hrows : ∀ e ∈ rows, e.links = links) :
    sortBy ((order (scopeOf c base plan)).map (keyOrder db)) (rows.map Extended.env) =
      (sortBy ((sortKeys base plan).map fun k a b => sortOrder db k a.planRow b.planRow) rows).map Extended.env := by
  rw [order_scopeOf, List.map_map]
  -- the keys compare alike on rows that carry all links; other rows do not occur
  symm
  apply map_sortBy
  intro k hk a ha b hb
  exact (keyOrder_column db h hbase hk (hrows a ha) (hrows b hb)).symm

/-- The columns of a statement are what its plan selects. -/
theorem map_value_columns (h : plan.Fits c base links) (hbase : base.IsConsistent c) {e : Extended V}
    (he : e.links = links) :
    (plan.select.map (scopeOf c base plan).column).map (fun column => db.scalar (value db e.env column)) =
      plan.select.map e.planRow.read := by
  rw [List.map_map]
  apply List.map_congr_left
  intro f hf
  obtain ⟨info, hlead⟩ := h.references_lead f (List.mem_append_left _ (List.mem_append_left _ hf))
  rw [Function.comp_apply, value_column h hbase he hlead]
  rfl

/-- The rows of the statement of a plan that fits are those that the plan asks for. -/
theorem selectedRows_selectOf (h : plan.Fits c base links) (hbase : base.IsConsistent c) :
    selectedRows db (selectOf (scopeOf c base plan) links) =
      (resultRows db c base links plan).map fun e => plan.select.map e.planRow.read := by
  have hkept : ∀ e ∈ (extendedRows db base links).filter (fun e =>
      plan.filters.all (filterHolds c base plan db e.planRow)), e.links = links :=
    fun e he => links_of_mem_extendedRows db (List.mem_of_mem_filter he)
  rw [selectedRows, joinedRows_selectOf db h hbase]
  simp only [selectOf, selectWith, filter_condition db h hbase, sortBy_order db h hbase hkept, limited]
  rw [← List.map_take, List.map_map]
  apply List.map_congr_left
  intro e he
  exact map_value_columns db h hbase (links_of_mem_resultRows db he)

/-- The keys of a plan put rows the same way whether the plan or the statement is to know them. -/
theorem sortBy_sortOrder (keys : List SortKey) (rows : List (Extended V)) :
    sortBy (keys.map (sortOrder db)) (rows.map Extended.planRow) =
      (sortBy (keys.map fun k a b => sortOrder db k a.planRow b.planRow) rows).map Extended.planRow := by
  symm
  apply map_sortBy
  intro k _ a _ b _
  rfl

/-- What a plan asks for on a database is read off the rows of the plan. -/
theorem planRows_eq (h : plan.Fits c base links) :
    planRows c db plan = some ((resultRows db c base links plan).map fun e => plan.select.map e.planRow.read) := by
  have hbaseRows :
      (db.rows base.view).map (fun row => (⟨row, []⟩ : PlanRow V)) = (baseRows db base).map Extended.planRow := by
    rw [baseRows, List.map_map]
    rfl
  have hjoined : plan.joins.foldlM (extendAlong c db) ((baseRows db base).map Extended.planRow) =
      some ((extendedRows db base links).map Extended.planRow) := by
    rw [h.joins_eq]
    exact foldlM_extendAlong db h.links_declared (baseRows db base)
  rw [planRows, h.base_declared]
  simp only [Option.bind_eq_bind, Option.bind_some, hbaseRows, hjoined]
  rw [List.filter_map, sortBy_sortOrder, ← List.map_take, List.map_map]
  rfl

end Statements

/-- The statement of an accepted plan answers what the plan asks for. Against a contract that passes its check the
statement can be written down, no database refuses it, and its rows are those of the plan, in their order. -/
theorem answer_compilePlan (c : Contract) (hcheck : Contract.check c = .ok ()) (raw : RawPlan) (plan : ValidPlan)
    (hvalid : validate (.ofContract c) raw = .ok plan) (db : Database V) :
    ∃ query rows, compilePlan (.ofContract c) plan = .ok query
      ∧ answer db query.select = some rows ∧ planRows c db plan = some rows := by
  obtain ⟨base, links, -, hfits⟩ := exists_fits_of_validate hvalid
  have hbase : base.IsConsistent c := Contract.isConsistent_of_check hcheck hfits.base_declared
  refine ⟨_, _, compilePlan_eq_ok hfits, ?_, planRows_eq db hfits⟩
  rw [answer, if_pos (isScoped_selectOf hfits hbase)]
  congr 1
  exact selectedRows_selectOf db hfits hbase

/-- A library with two books, the second of which is the sequel of the first; its values are texts. -/
def libraryRows : Database String where
  rows := fun view =>
    let rows : List (List (String × String)) :=
      if view = "books" then
        [[("id", "1"), ("shelf", "7"), ("sequel", "2"), ("discount", "4")],
          [("id", "2"), ("shelf", "7"), ("discount", "6")]]
      else [[("id", "7"), ("room", "attic")]]
    rows.map fun columns name => columns.lookup name
  text := id
  boolean := fun b => if b then "true" else "false"
  isTrue := fun v => v = "true"
  pack := fun items => String.join (items.map fun item => item.getD "")
  unpack := fun v => [some v]
  cast := fun _ v => v
  compare := fun operator a b =>
    match operator with
    | .equals => .ofBool (a = b)
    | .greater => .ofBool (b < a)
    | .greaterOrEqual => .ofBool (b ≤ a)
    | .less => .ofBool (a < b)
    | .lessOrEqual => .ofBool (a ≤ b)
    | .like => .unknown
  rank := fun a b => compare (a.getD "") (b.getD "")

/-- The statement for books with their sequels answers what their plan asks for. -/
theorem answer_sequels :
    ∃ plan query rows, validate (.ofContract Contract.Library.contract) (readPlan sequelsPlan) = .ok plan
      ∧ compilePlan (.ofContract Contract.Library.contract) plan = .ok query
      ∧ answer libraryRows query.select = some rows
      ∧ planRows Contract.Library.contract libraryRows plan = some rows := by
  have hvalid : ∃ plan, validate (.ofContract Contract.Library.contract) (readPlan sequelsPlan) = .ok plan := ⟨_, rfl⟩
  obtain ⟨plan, hvalid⟩ := hvalid
  obtain ⟨query, rows, hquery, hanswer, hrows⟩ := answer_compilePlan _ rfl _ plan hvalid libraryRows
  exact ⟨plan, query, rows, hvalid, hquery, hanswer, hrows⟩

end QueryGate.Meaning
