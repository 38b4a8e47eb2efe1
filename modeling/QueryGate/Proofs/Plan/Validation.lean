import QueryGate.Plan.Validate
import QueryGate.Proofs.NameTable
/-!
What validation accepts. An accepted plan fits the contract: its base resource is declared, each of its joins goes along
a relation of the base to a declared target, no relation is joined twice, and every reference in it leads to a declared
field of the base or of the target of a join.

The joins of a plan carry the names of their targets only. A `Link` carries the target itself, so that what follows can
speak of its view and its fields without looking it up again.
-/
set_option autoImplicit false

namespace QueryGate.Plan

/-! ## Catalogs -/

/-- A name leads to a declared resource exactly if the index leads to its canonical name. -/
theorem Catalog.resolve_eq_ok_iff (catalog : Catalog) (name canonical : String) (info : Contract.ResourceInfo) :
    catalog.resolve name = .ok (canonical, info) ↔
      catalog.index.resolve name = some canonical ∧ catalog.contract.resource? canonical = some info := by
  unfold resolve
  cases hindex : catalog.index.resolve name with
  | none => simp
  | some found =>
      cases hinfo : catalog.contract.resource? found with
      | none =>
          simp only [Option.bind_some, hinfo, Option.map_none, reduceCtorEq, Option.some.injEq, false_iff, not_and]
          rintro rfl
          simp [hinfo]
      | some r =>
          simp only [Option.bind_some, hinfo, Option.map_some, Except.ok.injEq, Prod.mk.injEq, Option.some.injEq]
          constructor
          · rintro ⟨rfl, rfl⟩
            exact ⟨rfl, hinfo⟩
          · rintro ⟨rfl, h⟩
            rw [hinfo] at h
            exact ⟨rfl, Option.some.inj h⟩

/-- A declared canonical name leads to its resource. -/
theorem Catalog.lookup_eq_ok {catalog : Catalog} {name : String} {info : Contract.ResourceInfo}
    (h : catalog.contract.resource? name = some info) : catalog.lookup name = .ok info := by
  rw [lookup, h]

/-! ## Validation in one equation -/

/-- What is kept of a plan on a base resource. -/
def keptPlan (c : Contract) (resource : String) (base : Contract.ResourceInfo) (raw : RawPlan) : ValidPlan where
  resource := resource
  joins := validJoins c base raw.joins
  select := ((raw.select.getD base.defaultSelect).map FieldRef.ofText).filter
    (isValidRef c base (validJoins c base raw.joins))
  filters := raw.filters.filterMap (validPredicate (isValidRef c base (validJoins c base raw.joins)))
  sort := raw.sort.filterMap (validSortKey (isValidRef c base (validJoins c base raw.joins)))
  limit := clampLimit raw.limit

/-- A plan fails if its resource leads nowhere or if nothing is kept of its selection. -/
theorem validate_eq (catalog : Catalog) (raw : RawPlan) :
    validate catalog raw =
      match catalog.resolve raw.resource with
      | .error e => .error e
      | .ok (resource, base) =>
        if (keptPlan catalog.contract resource base raw).select = [] then .error .emptySelection
        else .ok (keptPlan catalog.contract resource base raw) := by
  unfold validate
  cases catalog.resolve raw.resource with
  | error e => rfl
  | ok found =>
      obtain ⟨resource, base⟩ := found
      simp only [bind, Except.bind, List.isEmpty_iff]
      rfl

/-- The accepted plan is what is kept of the plan as it was received. -/
theorem validate_eq_ok_iff (catalog : Catalog) (raw : RawPlan) (plan : ValidPlan) :
    validate catalog raw = .ok plan ↔
      ∃ base, catalog.resolve raw.resource = .ok (plan.resource, base)
        ∧ keptPlan catalog.contract plan.resource base raw = plan ∧ plan.select ≠ [] := by
  rw [validate_eq]
  cases catalog.resolve raw.resource with
  | error e => simp
  | ok found =>
      obtain ⟨resource, base⟩ := found
      by_cases hempty : (keptPlan catalog.contract resource base raw).select = []
      · simp only [if_pos hempty, reduceCtorEq, Except.ok.injEq, Prod.mk.injEq, false_iff, not_exists, not_and]
        rintro info ⟨rfl, rfl⟩ hkept hne
        rw [← hkept] at hne
        exact hne hempty
      · simp only [if_neg hempty, Except.ok.injEq, Prod.mk.injEq]
        constructor
        · rintro rfl
          exact ⟨base, ⟨rfl, rfl⟩, rfl, hempty⟩
        · rintro ⟨info, ⟨rfl, rfl⟩, hkept, -⟩
          exact hkept

/-! ## Links -/

/-- A relation under its name, with the resource that it leads to. -/
structure Link where
  name : String
  relation : Contract.RelationInfo
  target : Contract.ResourceInfo

namespace Link

/-- The join along a link. -/
def join (l : Link) : ValidJoin := joinAlong l.name l.relation

/-- The base resource declares the relation, and the contract declares its target. -/
def IsDeclared (c : Contract) (base : Contract.ResourceInfo) (l : Link) : Prop :=
  base.relations.get? l.name = some l.relation ∧ c.resource? l.relation.targetResource = some l.target

@[simp] theorem join_relation (l : Link) : l.join.relation = l.name := rfl

@[simp] theorem join_targetResource (l : Link) : l.join.targetResource = l.relation.targetResource := rfl

end Link

section Joins

variable {c : Contract} {base : Contract.ResourceInfo}

/-- A request leads to a join exactly along a declared link of its name. -/
theorem joinOf_eq_some_iff (request : Option String) (j : ValidJoin) :
    joinOf c base request = some j ↔
      ∃ l : Link, l.IsDeclared c base ∧ request = some l.name ∧ l.join = j := by
  constructor
  · intro h
    simp only [joinOf, Option.bind_eq_bind, Option.bind_eq_some_iff] at h
    obtain ⟨name, hname, relation, hrelation, h⟩ := h
    split at h
    · rename_i htarget
      obtain ⟨target, htarget⟩ := Option.isSome_iff_exists.1 htarget
      exact ⟨⟨name, relation, target⟩, ⟨hrelation, htarget⟩, hname, Option.some.inj h⟩
    · exact absurd h (by simp)
  · rintro ⟨l, ⟨hrelation, htarget⟩, rfl, rfl⟩
    simp [joinOf, hrelation, htarget, Link.join]

/-- Adding a join keeps the relations distinct. -/
theorem nodup_addJoin {joins : List ValidJoin} (h : (joins.map (·.relation)).Nodup) (j : ValidJoin) :
    ((addJoin joins j).map (·.relation)).Nodup := by
  unfold addJoin
  split
  · exact h
  · rename_i hnew
    simp only [List.any_eq_true, decide_eq_true_eq, not_exists, not_and] at hnew
    rw [List.map_append, List.nodup_append]
    refine ⟨h, by simp, ?_⟩
    intro a ha b hb
    obtain ⟨k, hk, rfl⟩ := List.mem_map.1 ha
    rw [List.map_singleton, List.mem_singleton] at hb
    rw [hb]
    exact hnew k hk

/-- Adding a join brings in no other one. -/
theorem mem_of_mem_addJoin {joins : List ValidJoin} {j k : ValidJoin} (h : k ∈ addJoin joins j) :
    k ∈ joins ∨ k = j := by
  unfold addJoin at h
  split at h
  · exact .inl h
  · simpa using h

/-- Adding joins one after the other keeps the relations distinct and brings in no other joins. -/
theorem foldl_addJoin (joins added : List ValidJoin) (h : (joins.map (·.relation)).Nodup) :
    ((added.foldl addJoin joins).map (·.relation)).Nodup
      ∧ ∀ k ∈ added.foldl addJoin joins, k ∈ joins ∨ k ∈ added := by
  induction added generalizing joins with
  | nil => exact ⟨h, fun k hk => .inl hk⟩
  | cons j rest ih =>
      rw [List.foldl_cons]
      obtain ⟨hnodup, hmem⟩ := ih (addJoin joins j) (nodup_addJoin h j)
      refine ⟨hnodup, ?_⟩
      intro k hk
      rcases hmem k hk with hk | hk
      · rcases mem_of_mem_addJoin hk with hk | rfl
        · exact .inl hk
        · exact .inr List.mem_cons_self
      · exact .inr (List.mem_cons_of_mem _ hk)

/-- The relations of accepted joins are distinct. -/
theorem nodup_relation_validJoins (requests : List (Option String)) :
    ((validJoins c base requests).map (·.relation)).Nodup :=
  (foldl_addJoin [] _ List.nodup_nil).1

/-- Joins that all go along declared links are the joins along a list of declared links. -/
theorem exists_links {joins : List ValidJoin} (h : ∀ j ∈ joins, ∃ l : Link, l.IsDeclared c base ∧ l.join = j) :
    ∃ links : List Link, links.map Link.join = joins ∧ ∀ l ∈ links, l.IsDeclared c base := by
  -- the links are chosen one by one, so that they stand in the order of the joins
  induction joins with
  | nil => exact ⟨[], rfl, by simp⟩
  | cons j rest ih =>
      obtain ⟨l, hl, rfl⟩ := h j List.mem_cons_self
      obtain ⟨links, rfl, hlinks⟩ := ih (fun k hk => h k (List.mem_cons_of_mem _ hk))
      exact ⟨l :: links, rfl, List.forall_mem_cons.2 ⟨hl, hlinks⟩⟩

/-- Accepted joins go along declared links. -/
theorem exists_links_validJoins (c : Contract) (base : Contract.ResourceInfo) (requests : List (Option String)) :
    ∃ links : List Link, links.map Link.join = validJoins c base requests ∧ ∀ l ∈ links, l.IsDeclared c base := by
  apply exists_links
  intro j hj
  rcases (foldl_addJoin [] _ List.nodup_nil).2 j hj with hj | hj
  · exact absurd hj List.not_mem_nil
  · obtain ⟨request, -, hrequest⟩ := List.mem_filterMap.1 hj
    obtain ⟨l, hl, -, rfl⟩ := (joinOf_eq_some_iff request j).1 hrequest
    exact ⟨l, hl, rfl⟩

end Joins

/-! ## References -/

/-- The references of a plan: those that it selects, filters by and sorts by. -/
def ValidPlan.references (p : ValidPlan) : List FieldRef :=
  p.select ++ p.filters.map (·.field) ++ p.sort.map (·.field)

/-- A reference leads to a field that is declared on a resource: on the base if it is not qualified, and otherwise on
the target of the link of its relation. -/
inductive LeadsTo (base : Contract.ResourceInfo) (links : List Link) : FieldRef → Contract.ResourceInfo → Prop where
  | base {field : String} (declared : base.hasField field = true) : LeadsTo base links ⟨none, field⟩ base
  | link {l : Link} {field : String} (mem : l ∈ links) (declared : l.target.hasField field = true) :
    LeadsTo base links ⟨some l.name, field⟩ l.target

/-- The field of a reference is declared where it leads to. -/
theorem LeadsTo.hasField {base : Contract.ResourceInfo} {links : List Link} {f : FieldRef}
    {info : Contract.ResourceInfo} (h : LeadsTo base links f info) : info.hasField f.field = true := by
  cases h with
  | base declared => exact declared
  | link _ declared => exact declared

/-- Where relations are joined once each, the join that is found under the relation of a join is that join. -/
theorem find?_relation_eq_some {joins : List ValidJoin} (hnodup : (joins.map (·.relation)).Nodup) {j : ValidJoin}
    (hj : j ∈ joins) : (joins.find? fun k => k.relation = j.relation) = some j := by
  induction joins with
  | nil => exact absurd hj List.not_mem_nil
  | cons k rest ih =>
      rw [List.map_cons, List.nodup_cons] at hnodup
      rw [List.find?_cons]
      rcases List.mem_cons.1 hj with rfl | hj
      · simp
      · -- an earlier join is along another relation, so the search goes past it
        have hne : k.relation ≠ j.relation := fun e => hnodup.1 (e ▸ List.mem_map_of_mem hj)
        simp [hne, ih hnodup.2 hj]

/-- A valid reference leads to a declared field. -/
theorem exists_leadsTo {c : Contract} {base : Contract.ResourceInfo} {links : List Link}
    (hlinks : ∀ l ∈ links, l.IsDeclared c base) {f : FieldRef}
    (h : isValidRef c base (links.map Link.join) f = true) : ∃ info, LeadsTo base links f info := by
  obtain ⟨relation, field⟩ := f
  cases relation with
  | none => exact ⟨base, .base h⟩
  | some name =>
      simp only [isValidRef, resourceOf] at h
      cases hfind : (links.map Link.join).find? fun j => j.relation = name with
      | none => simp [hfind] at h
      | some j =>
          obtain ⟨l, hl, rfl⟩ := List.mem_map.1 (List.mem_of_find?_eq_some hfind)
          have hname := List.find?_some hfind
          rw [decide_eq_true_eq, Link.join_relation] at hname
          subst hname
          simp only [hfind, Option.bind_some, Link.join_targetResource, (hlinks l hl).2] at h
          exact ⟨l.target, .link hl h⟩

/-- The resource that a reference reads from is the one that it leads to. -/
theorem LeadsTo.resourceOf_eq {c : Contract} {base : Contract.ResourceInfo} {links : List Link}
    (hnodup : (links.map (·.name)).Nodup) (hlinks : ∀ l ∈ links, l.IsDeclared c base) {f : FieldRef}
    {info : Contract.ResourceInfo} (h : LeadsTo base links f info) :
    resourceOf c base (links.map Link.join) f = some info := by
  cases h with
  | base _ => rfl
  | @link l _ hl _ =>
      have hrelations : ((links.map Link.join).map (·.relation)).Nodup := by
        rw [List.map_map]
        exact hnodup
      have hfound : ((links.map Link.join).find? fun j => j.relation = l.name) = some l.join :=
        find?_relation_eq_some hrelations (List.mem_map_of_mem hl)
      unfold resourceOf
      simp only [hfound, Option.bind_some, Link.join_targetResource, (hlinks l hl).2]

/-! ## Accepted plans -/

/-- A plan fits a contract on a base resource along some links. -/
structure ValidPlan.Fits (c : Contract) (base : Contract.ResourceInfo) (links : List Link) (p : ValidPlan) : Prop where
  base_declared : c.resource? p.resource = some base
  joins_eq : p.joins = links.map Link.join
  links_declared : ∀ l ∈ links, l.IsDeclared c base
  names_nodup : (links.map (·.name)).Nodup
  references_lead : ∀ f ∈ p.references, ∃ info, LeadsTo base links f info

/-- What is kept of a plan on a declared resource fits the contract. -/
theorem exists_fits_keptPlan {c : Contract} {resource : String} {base : Contract.ResourceInfo}
    (hbase : c.resource? resource = some base) (raw : RawPlan) :
    ∃ links, (keptPlan c resource base raw).Fits c base links := by
  obtain ⟨links, hjoins, hlinks⟩ := exists_links_validJoins c base raw.joins
  have hnames : links.map (·.name) = (validJoins c base raw.joins).map (·.relation) := by
    rw [← hjoins, List.map_map]
    rfl
  refine ⟨links, hbase, hjoins.symm, hlinks, hnames ▸ nodup_relation_validJoins raw.joins, ?_⟩
  intro f hf
  -- whatever is kept passed the same test of references
  apply exists_leadsTo hlinks
  rw [hjoins]
  simp only [ValidPlan.references, keptPlan, List.mem_append, List.mem_filter, List.mem_map, List.mem_filterMap] at hf
  rcases hf with (⟨-, hf⟩ | ⟨p, ⟨q, -, hq⟩, rfl⟩) | ⟨k, ⟨q, -, hq⟩, rfl⟩
  · exact hf
  · simp only [validPredicate, Option.ite_none_right_eq_some] at hq
    obtain ⟨hvalid, hp⟩ := hq
    rw [← Option.some.inj hp]
    exact hvalid
  · simp only [validSortKey, Option.ite_none_right_eq_some] at hq
    obtain ⟨hvalid, hk⟩ := hq
    rw [← Option.some.inj hk]
    exact hvalid

/-- An accepted plan fits the contract on the resource that its name leads to. -/
theorem exists_fits_of_validate {catalog : Catalog} {raw : RawPlan} {plan : ValidPlan}
    (h : validate catalog raw = .ok plan) :
    ∃ base links, catalog.index.resolve raw.resource = some plan.resource ∧ plan.Fits catalog.contract base links := by
  obtain ⟨base, hresolve, hkept, -⟩ := (validate_eq_ok_iff catalog raw plan).1 h
  obtain ⟨hindex, hbase⟩ := (catalog.resolve_eq_ok_iff raw.resource plan.resource base).1 hresolve
  obtain ⟨links, hfits⟩ := exists_fits_keptPlan hbase raw
  exact ⟨base, links, hindex, hkept ▸ hfits⟩

end QueryGate.Plan
