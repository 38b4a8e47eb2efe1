import QueryGate.Contract.Check
import QueryGate.Proofs.NameTable
/-!
What the check of a contract guarantees: it passes exactly the contracts in which every name leads somewhere and no two
relations of a resource share an alias.
-/
set_option autoImplicit false

namespace QueryGate.Contract

/-- A resource of a contract in which every name is declared and every alias stands for one thing. -/
structure ResourceInfo.IsConsistent (c : Contract) (r : ResourceInfo) : Prop where
  view_not_blank : Text.isBlankText r.view = false
  defaults_declared : ∀ f ∈ r.defaultSelect, r.hasField f = true
  local_declared : ∀ e ∈ r.relations.entries, r.hasField e.2.localField = true
  target_declared : ∀ e ∈ r.relations.entries,
    ∃ target, c.resource? e.2.targetResource = some target ∧ target.hasField e.2.targetField = true
  aliases_nodup : (baseAlias :: r.relations.entries.map fun e => e.2.tableAlias).Nodup

/-- The ends of a relation are in order exactly if both its fields are declared, each on its own resource. -/
theorem endpointViolations_eq_nil_iff (c : Contract) (name : String) (r : ResourceInfo) (relation : String)
    (info : RelationInfo) :
    endpointViolations c name r relation info = [] ↔
      r.hasField info.localField = true
        ∧ ∃ target, c.resource? info.targetResource = some target ∧ target.hasField info.targetField = true := by
  rw [endpointViolations, List.append_eq_nil_iff]
  apply and_congr
  · by_cases h : r.hasField info.localField = true
    · simp [h]
    · simp [h]
  · cases c.resource? info.targetResource with
    | none => simp
    | some target =>
        by_cases h : target.hasField info.targetField = true
        · simp [h]
        · simp [h]

/-- Relations are in order exactly if the ends of each are, and no alias is taken or repeated. -/
theorem relationViolations_eq_nil_iff (c : Contract) (name : String) (r : ResourceInfo) (taken : List String)
    (relations : List (String × RelationInfo)) :
    relationViolations c name r taken relations = [] ↔
      (∀ e ∈ relations, endpointViolations c name r e.1 e.2 = [])
        ∧ (relations.map fun e => e.2.tableAlias).Nodup ∧ ∀ e ∈ relations, e.2.tableAlias ∉ taken := by
  -- the aliases that are taken grow along the relations
  induction relations generalizing taken with
  | nil => simp [relationViolations]
  | cons e rest ih =>
      obtain ⟨relation, info⟩ := e
      rw [relationViolations, List.append_eq_nil_iff, List.append_eq_nil_iff, ih]
      simp only [ite_eq_right_iff, reduceCtorEq, imp_false, List.mem_cons, not_or, forall_eq_or_imp, List.map_cons,
        List.nodup_cons, List.mem_map, not_exists, not_and]
      constructor
      · rintro ⟨⟨hends, htaken⟩, hrest, hnodup, hfree⟩
        exact ⟨⟨hends, hrest⟩, ⟨fun e he => (hfree e he).1, hnodup⟩, htaken, fun e he => (hfree e he).2⟩
      · rintro ⟨⟨hends, hrest⟩, ⟨hnew, hnodup⟩, htaken, hfree⟩
        exact ⟨⟨hends, htaken⟩, hrest, hnodup, fun e he => ⟨hnew e he, hfree e he⟩⟩

/-- A resource has no violations exactly if it is consistent. -/
theorem resourceViolations_eq_nil_iff (c : Contract) (name : String) (r : ResourceInfo) :
    resourceViolations c name r = [] ↔ r.IsConsistent c := by
  rw [resourceViolations, List.append_eq_nil_iff, List.append_eq_nil_iff, relationViolations_eq_nil_iff]
  simp only [viewViolations, ite_eq_right_iff, reduceCtorEq, imp_false, Bool.not_eq_true, defaultViolations,
    List.map_eq_nil_iff, List.filter_eq_nil_iff, Bool.not_eq_eq_eq_not, Bool.not_true, Bool.not_eq_false,
    endpointViolations_eq_nil_iff, List.mem_singleton]
  constructor
  · rintro ⟨⟨hview, hdefaults⟩, hends, hnodup, hfree⟩
    refine ⟨hview, hdefaults, fun e he => (hends e he).1, fun e he => (hends e he).2, ?_⟩
    rw [List.nodup_cons]
    refine ⟨?_, hnodup⟩
    intro hmem
    obtain ⟨e, he, heq⟩ := List.mem_map.1 hmem
    exact hfree e he heq
  · rintro ⟨hview, hdefaults, hlocal, htarget, hnodup⟩
    rw [List.nodup_cons] at hnodup
    refine ⟨⟨hview, hdefaults⟩, fun e he => ⟨hlocal e he, htarget e he⟩, hnodup.2, ?_⟩
    intro e he heq
    exact hnodup.1 (List.mem_map.2 ⟨e, he, heq⟩)

/-- The check passes exactly if every resource is consistent. -/
theorem check_eq_ok_iff (c : Contract) : check c = .ok () ↔ ∀ e ∈ c.resources.entries, e.2.IsConsistent c := by
  have hnil : check c = .ok () ↔ violations c = [] := by
    unfold check
    cases violations c with
    | nil => simp
    | cons v vs => simp
  rw [hnil, violations, List.flatMap_eq_nil_iff]
  simp only [resourceViolations_eq_nil_iff]

/-- In a contract that passes, a declared resource is consistent. -/
theorem isConsistent_of_check {c : Contract} (h : check c = .ok ()) {name : String} {r : ResourceInfo}
    (hr : c.resource? name = some r) : r.IsConsistent c :=
  (check_eq_ok_iff c).1 h (name, r) ((c.resources.get?_eq_some_iff_mem name r).1 hr)

/-! ## A contract that passes -/

namespace Library

/-- Shelves have no relations. -/
def shelf : ResourceInfo where
  view := "shelves"
  description := none
  synonyms := []
  fields := .ofList [("id", ⟨.identifier, none⟩), ("room", ⟨.text, none⟩)]
  defaultSelect := ["id"]
  filterable := true
  sortable := true
  relations := .empty

/-- A book stands on a shelf and may have a sequel, which is a book again: that relation has the name of the resource
that declares it. -/
def book : ResourceInfo where
  view := "books"
  description := none
  synonyms := []
  fields := .ofList [("id", ⟨.identifier, none⟩), ("shelf", ⟨.identifier, none⟩), ("sequel", ⟨.identifier, none⟩),
    ("discount", ⟨.number, none⟩)]
  defaultSelect := ["id"]
  filterable := true
  sortable := true
  relations := .ofList
    [("Book", ⟨.left, "sequel", "Book", "id", "b"⟩), ("Shelf", ⟨.inner, "shelf", "Shelf", "id", "s"⟩)]

/-- The contract of a library. -/
def contract : Contract := ⟨.ofList [("Book", book), ("Shelf", shelf)]⟩

example : check contract = .ok () := rfl

end Library

end QueryGate.Contract
