import QueryGate.Proofs.Compile.Scope
import QueryGate.Proofs.Contract.Consistency
import QueryGate.Proofs.Plan.FieldRef
/-!
The default columns of a plan that asks for none. The check of a contract looks up the default fields of a resource by
their names; validation reads them as references first, and a name with exactly one dot is a reference to something
else. So the default fields are what such a plan selects exactly if none of their names has exactly one dot, whatever
joins, filters, order and limit the plan has.
-/
set_option autoImplicit false

namespace QueryGate.Compile

open Plan Statement

/-! ## Plans that ask for no fields -/

/-- A plan asks for no fields: it has no list of them, or an empty one. -/
def AsksForNoFields (v : Json.Value) : Prop := ∀ item items, v.get? "select" ≠ some (.list (item :: items))

theorem readSelect_eq_none_iff (v : Json.Value) : Plan.readSelect v = none ↔ AsksForNoFields v := by
  unfold Plan.readSelect AsksForNoFields
  split
  · rename_i item items hselect
    exact iff_of_false (by simp) fun h => h item items hselect
  · rename_i hnone
    exact iff_of_true rfl hnone

/-- Of a plan that asks for no fields the default fields are kept that lead somewhere as references. -/
theorem select_keptPlan_default {v : Json.Value} (h : AsksForNoFields v) (c : Contract) (resource : String)
    (base : Contract.ResourceInfo) :
    (keptPlan c resource base (readPlan v)).select =
      (base.defaultSelect.map FieldRef.ofText).filter (isValidRef c base (validJoins c base (readPlan v).joins)) := by
  have hnone : (readPlan v).select = none := (readSelect_eq_none_iff v).2 h
  rw [keptPlan, hnone, Option.getD_none]

/-! ## Names read as references -/

/-- Names of valid fields of the base stay what they are when they are read and checked exactly if none of them has
exactly one dot. -/
theorem filter_map_ofText_eq_iff {valid : FieldRef → Bool} {names : List String}
    (hvalid : ∀ name ∈ names, valid ⟨none, name⟩ = true) :
    (names.map FieldRef.ofText).filter valid = names.map (fun name => ⟨none, name⟩) ↔
      ∀ name ∈ names, name.toList.count '.' ≠ 1 := by
  constructor
  · intro hkept
    -- nothing can have been dropped, so each name is read as itself
    have hlength : ((names.map FieldRef.ofText).filter valid).length = (names.map FieldRef.ofText).length := by
      rw [hkept, List.length_map, List.length_map]
    rw [List.filter_sublist.eq_of_length hlength, List.map_inj_left] at hkept
    exact fun name hname => (FieldRef.ofText_eq_unqualified_iff name).1 (hkept name hname)
  · intro hdots
    have hread : names.map FieldRef.ofText = names.map fun name => ⟨none, name⟩ :=
      List.map_congr_left fun name hname => FieldRef.ofText_of_count_ne (hdots name hname)
    rw [hread, List.filter_eq_self]
    exact List.forall_mem_map.2 hvalid

/-! ## The default columns -/

/-- A plan that asks for no fields selects the default fields of its resource, in their order and from the base, exactly
if none of their names has exactly one dot. Nothing else in the plan matters: against a contract that passes its check
such a plan is then accepted and compiled, whatever joins, filters, order and limit it has. -/
theorem default_columns_iff (c : Contract) (hcheck : Contract.check c = .ok ()) (v : Json.Value) (resource : String)
    (base : Contract.ResourceInfo)
    (hresolve : (Catalog.ofContract c).resolve (textOfMember v "resource") = .ok (resource, base))
    (hdefault : base.defaultSelect ≠ []) (hselect : AsksForNoFields v) :
    (∃ plan query, validate (.ofContract c) (readPlan v) = .ok plan ∧ compilePlan (.ofContract c) plan = .ok query
        ∧ plan.resource = resource ∧ plan.select = base.defaultSelect.map (fun name => ⟨none, name⟩)
        ∧ query.select.table = base.view ∧ query.select.tableAlias = Contract.baseAlias
        ∧ query.select.columns = base.defaultSelect.map (.column Contract.baseAlias)) ↔
      ∀ name ∈ base.defaultSelect, name.toList.count '.' ≠ 1 := by
  obtain ⟨-, hbase⟩ := (Catalog.resolve_eq_ok_iff _ _ resource base).1 hresolve
  have hconsistent := Contract.isConsistent_of_check hcheck hbase
  have hvalid : ∀ name ∈ base.defaultSelect,
      isValidRef c base (validJoins c base (readPlan v).joins) ⟨none, name⟩ = true :=
    hconsistent.defaults_declared
  have hkept := select_keptPlan_default hselect c resource base
  constructor
  · rintro ⟨plan, query, hplan, -, rfl, hfields, -, -, -⟩
    obtain ⟨info, hresolved, hplan, -⟩ := (validate_eq_ok_iff _ _ plan).1 hplan
    obtain ⟨-, rfl⟩ := Prod.mk.inj (Except.ok.inj (hresolve.symm.trans hresolved))
    have hselected : (keptPlan c plan.resource base (readPlan v)).select = plan.select := congrArg (·.select) hplan
    exact (filter_map_ofText_eq_iff hvalid).1 (hkept.symm.trans (hselected.trans hfields))
  · intro hdots
    rw [(filter_map_ofText_eq_iff hvalid).2 hdots] at hkept
    have hne : (keptPlan c resource base (readPlan v)).select ≠ [] := by
      rw [hkept]
      exact fun hnil => hdefault (List.map_eq_nil_iff.1 hnil)
    have hplan := (validate_eq_ok_iff (.ofContract c) (readPlan v) (keptPlan c resource base (readPlan v))).2
      ⟨base, hresolve, rfl, hne⟩
    obtain ⟨links, hfits⟩ := exists_fits_keptPlan hbase (readPlan v)
    refine ⟨_, _, hplan, compilePlan_eq_ok hfits, rfl, hkept, rfl, rfl, ?_⟩
    rw [selectOf, selectWith]
    simp only [scopeOf, hkept, List.map_map]
    rfl

/-- A plan for books on their shelves that has an empty list of fields. -/
def shelvedBooksPlan : Json.Value :=
  .object [("joins", .list [.object [("resource", .string "Shelf")]]), ("resource", .string "books"),
    ("select", .list []),
    ("where", .list [.object [("field", .string "Shelf.room"), ("value", .string "attic")]])]

namespace Editions

/-- An edition of a text is selected by a field whose name has a dot. -/
def edition : Contract.ResourceInfo :=
  { Contract.Library.shelf with
    view := "editions"
    fields := .ofList [("id", ⟨.identifier, none⟩), ("v1.0", ⟨.text, none⟩)]
    defaultSelect := ["v1.0"] }

/-- The contract of the editions. -/
def contract : Contract := ⟨.ofList [("Edition", edition)]⟩

/-- A plan for the editions that asks for no fields. -/
def plan : Json.Value := .object [("resource", .string "Edition")]

end Editions

/-- The plan for books selects their default field from the base. The plan for the editions does not: the check passes
their contract, and validation reads the default field as the field `0` of a relation `v1` and has nothing left. -/
theorem default_columns_books_and_editions :
    (∃ plan query, validate (.ofContract Contract.Library.contract) (readPlan shelvedBooksPlan) = .ok plan
        ∧ compilePlan (.ofContract Contract.Library.contract) plan = .ok query ∧ plan.select = [⟨none, "id"⟩]
        ∧ query.select.columns = [.column "t" "id"])
      ∧ Contract.check Editions.contract = .ok ()
      ∧ validate (.ofContract Editions.contract) (readPlan Editions.plan) = .error .emptySelection := by
  refine ⟨?_, rfl, rfl⟩
  have hselect : AsksForNoFields shelvedBooksPlan := (readSelect_eq_none_iff _).1 rfl
  obtain ⟨plan, query, hplan, hquery, -, hfields, -, -, hcolumns⟩ :=
    (default_columns_iff Contract.Library.contract rfl shelvedBooksPlan "Book" Contract.Library.book rfl (by decide)
      hselect).2 (by decide)
  exact ⟨plan, query, hplan, hquery, hfields, hcolumns⟩

end QueryGate.Compile
