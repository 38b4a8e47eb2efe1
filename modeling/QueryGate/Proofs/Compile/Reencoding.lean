import QueryGate.Proofs.Compile.Outcome
import QueryGate.Proofs.Plan.FieldRef
import QueryGate.Proofs.Plan.Limit
/-!
Accepted plans written down again. Whatever validation does to a plan, it does nothing more to what it has accepted: a
reference is read from its text, a comparison and a direction from their words and a limit from its number as they are,
and the accepted joins are accepted again. So an accepted plan, received once more, is accepted as it is and has the
same statement.
-/
set_option autoImplicit false

namespace QueryGate.Plan

/-! ## Comparisons and directions -/

/-- The word for a comparison leads to it. -/
theorem Comparison.ofText_word (comparison : Comparison) : ofText comparison.word = comparison := by
  cases comparison <;> decide

/-- The word for a direction leads to it. -/
theorem Direction.ofText_word (direction : Direction) : ofText (some direction.word) = direction := by
  cases direction <;> decide

/-! ## Plans -/

/-- A filter as it would be received. -/
def Predicate.toRaw (p : Predicate) : RawPredicate := ⟨p.field.toText, p.comparison.word, p.value⟩

/-- A key of the order as it would be received. -/
def SortKey.toRaw (k : SortKey) : RawSortKey := ⟨k.field.toText, some k.direction.word⟩

/-- A plan as it would be received: the canonical name of its resource, a request for the relation of each of its joins,
and everything else in its own words. -/
def ValidPlan.toRaw (plan : ValidPlan) : RawPlan where
  resource := plan.resource
  joins := plan.joins.map fun j => some j.relation
  select := some (plan.select.map FieldRef.toText)
  filters := plan.filters.map Predicate.toRaw
  sort := plan.sort.map SortKey.toRaw
  limit := some (.number (.natural plan.limit))

/-- A function that undoes another on each item of a list undoes it on the list. -/
theorem filterMap_map_eq_self {α β : Type} {f : β → Option α} {g : α → β} {l : List α}
    (h : ∀ a ∈ l, f (g a) = some a) : (l.map g).filterMap f = l := by
  rw [List.filterMap_map]
  exact (List.filterMap_eq_map_iff_forall_eq_some.2 h).trans (List.map_id l)

section Kept

variable (valid : FieldRef → Bool)

theorem filter_ofText_toText (texts : List String) :
    ((((texts.map FieldRef.ofText).filter valid).map FieldRef.toText).map FieldRef.ofText).filter valid =
      (texts.map FieldRef.ofText).filter valid := by
  have hread : ∀ f ∈ (texts.map FieldRef.ofText).filter valid, (FieldRef.ofText ∘ FieldRef.toText) f = id f := by
    intro f hf
    obtain ⟨text, -, rfl⟩ := List.mem_map.1 (List.mem_filter.1 hf).1
    exact FieldRef.ofText_toText_ofText text
  rw [List.map_map, List.map_congr_left hread, List.map_id, List.filter_filter]
  simp only [Bool.and_self]

theorem filterMap_validPredicate_toRaw (filters : List RawPredicate) :
    ((filters.filterMap (validPredicate valid)).map Predicate.toRaw).filterMap (validPredicate valid) =
      filters.filterMap (validPredicate valid) := by
  apply filterMap_map_eq_self
  intro p hp
  obtain ⟨q, -, hq⟩ := List.mem_filterMap.1 hp
  simp only [validPredicate, Option.ite_none_right_eq_some] at hq
  obtain ⟨hvalid, hq⟩ := hq
  rw [← Option.some.inj hq, validPredicate, Predicate.toRaw]
  simp only [FieldRef.ofText_toText_ofText, Comparison.ofText_word, if_pos hvalid]

theorem filterMap_validSortKey_toRaw (sort : List RawSortKey) :
    ((sort.filterMap (validSortKey valid)).map SortKey.toRaw).filterMap (validSortKey valid) =
      sort.filterMap (validSortKey valid) := by
  apply filterMap_map_eq_self
  intro k hk
  obtain ⟨q, -, hq⟩ := List.mem_filterMap.1 hk
  simp only [validSortKey, Option.ite_none_right_eq_some] at hq
  obtain ⟨hvalid, hq⟩ := hq
  rw [← Option.some.inj hq, validSortKey, SortKey.toRaw]
  simp only [FieldRef.ofText_toText_ofText, Direction.ofText_word, if_pos hvalid]

end Kept

/-- Of what is kept of a plan everything is kept. -/
theorem keptPlan_toRaw (c : Contract) (resource : String) (base : Contract.ResourceInfo) (raw : RawPlan) :
    keptPlan c resource base (keptPlan c resource base raw).toRaw = keptPlan c resource base raw := by
  have hlimit : clampLimit (some (.number (.natural (clampLimit raw.limit)))) = clampLimit raw.limit :=
    clampLimit_natural (clampLimit_bounds raw.limit)
  -- the joins are the same, and so the test of references is
  simp only [keptPlan, ValidPlan.toRaw, validJoins_relations, Option.getD_some, filter_ofText_toText,
    filterMap_validPredicate_toRaw, filterMap_validSortKey_toRaw, hlimit]

/-- An accepted plan, received once more, is accepted as it is, if its resource has its canonical name. -/
theorem validate_toRaw {catalog : Catalog} {raw : RawPlan} {plan : ValidPlan} (h : validate catalog raw = .ok plan)
    (hself : catalog.index.resolve plan.resource = some plan.resource) : validate catalog plan.toRaw = .ok plan := by
  obtain ⟨base, hresolve, hkept, hne⟩ := (validate_eq_ok_iff catalog raw plan).1 h
  obtain ⟨-, hbase⟩ := (catalog.resolve_eq_ok_iff raw.resource plan.resource base).1 hresolve
  refine (validate_eq_ok_iff catalog plan.toRaw plan).2 ⟨base, ?_, ?_, hne⟩
  · exact (catalog.resolve_eq_ok_iff plan.resource plan.resource base).2 ⟨hself, hbase⟩
  · have hagain := keptPlan_toRaw catalog.contract plan.resource base raw
    rw [hkept] at hagain
    exact hagain

end QueryGate.Plan

namespace QueryGate.Compile

open Plan

/-- Validation does nothing more to what it has accepted. If the canonical name of its resource leads to itself, an
accepted plan that is received once more is accepted as it is, and so has the same statement with the same parameters. -/
theorem compileRaw_toRaw (catalog : Catalog) (raw : RawPlan) (plan : ValidPlan) (h : validate catalog raw = .ok plan)
    (hself : catalog.index.resolve plan.resource = some plan.resource) :
    validate catalog plan.toRaw = .ok plan
      ∧ ∃ query, compileRaw catalog raw = .ok (plan, query) ∧ compileRaw catalog plan.toRaw = .ok (plan, query) := by
  have hagain := validate_toRaw h hself
  obtain ⟨query, hquery⟩ := exists_compilePlan_of_validate h
  have hcompiled {received : RawPlan} (h : validate catalog received = .ok plan) :
      compileRaw catalog received = .ok (plan, query) := by
    rw [compileRaw, h]
    simp only [bind, Except.bind, hquery]
  exact ⟨hagain, query, hcompiled h, hcompiled hagain⟩

/-- A plan for books that is spelled in its own way: a request made twice, references with a dot in front or two dots, a
comparison in capitals, a direction in capitals and a limit beyond the greatest. -/
def looseRawPlan : RawPlan where
  resource := "books"
  joins := [some "Shelf", some "Shelf", some "Book"]
  select := some [".id", "Shelf.room", "Book.id", "Shelf.room.id"]
  filters := [⟨"Shelf.room", "STARTS_WITH", .string "a"⟩, ⟨".discount", "~", .number (.natural 3)⟩]
  sort := [⟨"discount", some " DESC"⟩, ⟨"id", none⟩]
  limit := some (.number (.natural 70))

/-- What is accepted of it. -/
def looseValidPlan : ValidPlan where
  resource := "Book"
  joins := [⟨"Shelf", "s", .inner, "shelf", "Shelf", "id"⟩]
  select := [⟨none, "id"⟩, ⟨some "Shelf", "room"⟩]
  filters := [⟨⟨some "Shelf", "room"⟩, .startsWith, .string "a"⟩, ⟨⟨none, "discount"⟩, .eq, .number (.natural 3)⟩]
  sort := [⟨⟨none, "discount"⟩, .desc⟩, ⟨⟨none, "id"⟩, .asc⟩]
  limit := 30

/-- What is accepted of it is accepted once more, and has the same statement. -/
theorem compileRaw_looseValidPlan :
    validate (.ofContract Contract.Library.contract) looseRawPlan = .ok looseValidPlan
      ∧ validate (.ofContract Contract.Library.contract) looseValidPlan.toRaw = .ok looseValidPlan
      ∧ ∃ query, compileRaw (.ofContract Contract.Library.contract) looseRawPlan = .ok (looseValidPlan, query)
        ∧ compileRaw (.ofContract Contract.Library.contract) looseValidPlan.toRaw = .ok (looseValidPlan, query) := by
  have hvalid : validate (.ofContract Contract.Library.contract) looseRawPlan = .ok looseValidPlan := rfl
  exact ⟨hvalid, compileRaw_toRaw _ looseRawPlan looseValidPlan hvalid rfl⟩

end QueryGate.Compile
