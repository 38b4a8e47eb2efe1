import QueryGate.Proofs.Compile.Scope
import QueryGate.Proofs.Contract.Consistency
import QueryGate.Proofs.Plan.Index
import QueryGate.Proofs.Plan.Joins
/-!
Which values compile. There are four outcomes: a value is no object, its resource leads nowhere, nothing of its
selection is there to be selected, or it compiles. Each has a condition that can be read off the value and the contract,
and no other content of a plan matters.
-/
set_option autoImplicit false

namespace QueryGate.Compile

open Plan Statement

/-! ## What the outcome depends on -/

/-- The plan in a value is about a resource: its text for the resource leads there. -/
def IsAbout (c : Contract) (v : Json.Value) (base : Contract.ResourceInfo) : Prop :=
  ∃ canonical, (Index.ofContract c).resolve (textOfMember v "resource") = some canonical
    ∧ c.resource? canonical = some base

/-- The references that a value asks for: those of its list, or the default fields of the base resource where it has no
list or an empty one. -/
def requestedRefs (base : Contract.ResourceInfo) (v : Json.Value) : List FieldRef :=
  ((Plan.readSelect v).getD base.defaultSelect).map FieldRef.ofText

/-- A value is about one resource at most. -/
theorem IsAbout.eq {c : Contract} {v : Json.Value} {base base' : Contract.ResourceInfo} (h : IsAbout c v base)
    (h' : IsAbout c v base') : base = base' := by
  obtain ⟨canonical, hresolve, hbase⟩ := h
  obtain ⟨canonical', hresolve', hbase'⟩ := h'
  obtain rfl : canonical = canonical' := Option.some.inj (hresolve.symm.trans hresolve')
  exact Option.some.inj (hbase.symm.trans hbase')

theorem IsAbout.ne_none {c : Contract} {v : Json.Value} {base : Contract.ResourceInfo} (h : IsAbout c v base) :
    (Index.ofContract c).resolve (textOfMember v "resource") ≠ none := by
  obtain ⟨canonical, hresolve, -⟩ := h
  simp [hresolve]

/-- The outcomes of compiling a value, each with its condition. -/
inductive Outcome (c : Contract) (v : Json.Value) : Except PlanError (ValidPlan × Query) → Prop where
  | notAnObject (no_object : v.isObject = false) (reason : NotAnObject) : Outcome c v (.error (.notAnObject reason))
  | notAllowed (object : v.isObject = true)
    (unknown : (Index.ofContract c).resolve (textOfMember v "resource") = none) :
    Outcome c v (.error (.resourceNotAllowed (textOfMember v "resource") c.resourceNames))
  | emptySelection (object : v.isObject = true) {base : Contract.ResourceInfo} (about : IsAbout c v base)
    (nothing : ∀ f ∈ requestedRefs base v, ¬IsSelectable c base (readPlan v).joins f) :
    Outcome c v (.error .emptySelection)
  | compiled (object : v.isObject = true) {base : Contract.ResourceInfo} (about : IsAbout c v base)
    (something : ∃ f ∈ requestedRefs base v, IsSelectable c base (readPlan v).joins f) (plan : ValidPlan)
    (query : Query) : Outcome c v (.ok (plan, query))

/-! ## Every value has an outcome -/

/-- In the catalog of a contract a name leads to a resource, or it is not allowed because the index does not know it. -/
theorem resolve_ofContract_cases (c : Contract) (name : String) :
    (∃ canonical base, (Index.ofContract c).resolve name = some canonical ∧ c.resource? canonical = some base
        ∧ (Catalog.ofContract c).resolve name = .ok (canonical, base))
      ∨ (Index.ofContract c).resolve name = none
        ∧ (Catalog.ofContract c).resolve name = .error (.resourceNotAllowed name c.resourceNames) := by
  cases hindex : (Index.ofContract c).resolve name with
  | none =>
      refine .inr ⟨rfl, ?_⟩
      unfold Catalog.resolve Catalog.ofContract
      simp only [hindex, Option.bind_none]
      rfl
  | some canonical =>
      obtain ⟨base, hbase⟩ := Index.exists_resource_of_resolve hindex
      exact .inl ⟨canonical, base, rfl, hbase, (Catalog.resolve_eq_ok_iff _ _ _ _).2 ⟨hindex, hbase⟩⟩

/-- An accepted plan compiles in the same catalog. -/
theorem exists_compilePlan_of_validate {catalog : Catalog} {raw : RawPlan} {plan : ValidPlan}
    (h : validate catalog raw = .ok plan) : ∃ query, compilePlan catalog plan = .ok query := by
  obtain ⟨base, links, -, hfits⟩ := exists_fits_of_validate h
  exact ⟨_, compilePlan_eq_ok hfits⟩

/-- Nothing is kept of a selection exactly if none of its references can be selected. -/
theorem select_keptPlan_eq_nil_iff (c : Contract) (resource : String) (base : Contract.ResourceInfo) (v : Json.Value) :
    (keptPlan c resource base (readPlan v)).select = [] ↔
      ∀ f ∈ requestedRefs base v, ¬IsSelectable c base (readPlan v).joins f := by
  have hselect : (keptPlan c resource base (readPlan v)).select =
      (requestedRefs base v).filter (isValidRef c base (validJoins c base (readPlan v).joins)) := rfl
  rw [hselect, List.filter_eq_nil_iff]
  simp only [isValidRef_validJoins_iff]

/-- Compiling a value has one of the four outcomes, under its condition. -/
theorem outcome_compileValue (c : Contract) (v : Json.Value) : Outcome c v (compileValue (.ofContract c) v) := by
  cases v with
  | object members =>
      have hraw : compileValue (.ofContract c) (.object members) =
          compileRaw (.ofContract c) (readPlan (.object members)) := rfl
      -- that it is an object is all that matters of its form
      generalize hv : Json.Value.object members = v at hraw ⊢
      have hobject : v.isObject = true := hv ▸ rfl
      have hname : (readPlan v).resource = textOfMember v "resource" := rfl
      rw [hraw, compileRaw, validate_eq, hname]
      rcases resolve_ofContract_cases c (textOfMember v "resource") with
        ⟨canonical, base, hindex, hbase, hresolve⟩ | ⟨hindex, hresolve⟩
      · have habout : IsAbout c v base := ⟨canonical, hindex, hbase⟩
        have hcontract : (Catalog.ofContract c).contract = c := rfl
        simp only [hresolve, hcontract]
        by_cases hempty : (keptPlan c canonical base (readPlan v)).select = []
        · rw [if_pos hempty]
          exact .emptySelection hobject habout ((select_keptPlan_eq_nil_iff c canonical base v).1 hempty)
        · rw [if_neg hempty]
          have hvalid : validate (.ofContract c) (readPlan v) = .ok (keptPlan c canonical base (readPlan v)) :=
            (validate_eq_ok_iff _ _ _).2 ⟨base, hresolve, rfl, hempty⟩
          obtain ⟨query, hquery⟩ := exists_compilePlan_of_validate hvalid
          rw [select_keptPlan_eq_nil_iff, not_forall] at hempty
          obtain ⟨f, hf⟩ := hempty
          rw [Classical.not_imp, Classical.not_not] at hf
          simp only [bind, Except.bind, hquery]
          exact .compiled hobject habout ⟨f, hf⟩ _ query
      · simp only [hresolve]
        exact .notAllowed hobject hindex
  | _ => exact .notAnObject rfl _

/-! ## Exact conditions -/

namespace Outcome

variable {c : Contract} {v : Json.Value} {result : Except PlanError (ValidPlan × Query)}

theorem eq_notAnObject_iff (h : Outcome c v result) :
    (∃ reason, result = .error (.notAnObject reason)) ↔ v.isObject = false := by
  cases h with
  | notAnObject no_object reason => exact iff_of_true ⟨reason, rfl⟩ no_object
  | notAllowed object _ => exact iff_of_false (by simp) (by simp [object])
  | emptySelection object _ _ => exact iff_of_false (by simp) (by simp [object])
  | compiled object _ _ plan query => exact iff_of_false (by simp) (by simp [object])

theorem eq_notAllowed_iff (h : Outcome c v result) (got : String) (allowed : List String) :
    result = .error (.resourceNotAllowed got allowed) ↔
      v.isObject = true ∧ (Index.ofContract c).resolve (textOfMember v "resource") = none
        ∧ got = textOfMember v "resource" ∧ allowed = c.resourceNames := by
  cases h with
  | notAnObject no_object reason => exact iff_of_false (by simp) (by simp [no_object])
  | notAllowed object unknown => simp [object, unknown, eq_comm]
  | emptySelection _ about _ => exact iff_of_false (by simp) fun h => about.ne_none h.2.1
  | compiled _ about _ plan query => exact iff_of_false (by simp) fun h => about.ne_none h.2.1

theorem eq_emptySelection_iff (h : Outcome c v result) :
    result = .error .emptySelection ↔
      v.isObject = true ∧ ∃ base, IsAbout c v base
        ∧ ∀ f ∈ requestedRefs base v, ¬IsSelectable c base (readPlan v).joins f := by
  cases h with
  | notAnObject no_object reason => exact iff_of_false (by simp) (by simp [no_object])
  | notAllowed _ unknown =>
      refine iff_of_false (by simp) ?_
      rintro ⟨-, base, about, -⟩
      exact about.ne_none unknown
  | emptySelection object about nothing => exact iff_of_true rfl ⟨object, _, about, nothing⟩
  | compiled _ about something plan query =>
      refine iff_of_false (by simp) ?_
      rintro ⟨-, base, about', nothing⟩
      obtain ⟨f, hf, selectable⟩ := something
      rw [about.eq about'] at hf selectable
      exact nothing f hf selectable

theorem eq_ok_iff (h : Outcome c v result) :
    (∃ plan query, result = .ok (plan, query)) ↔
      v.isObject = true ∧ ∃ base, IsAbout c v base
        ∧ ∃ f ∈ requestedRefs base v, IsSelectable c base (readPlan v).joins f := by
  cases h with
  | notAnObject no_object reason => exact iff_of_false (by simp) (by simp [no_object])
  | notAllowed _ unknown =>
      refine iff_of_false (by simp) ?_
      rintro ⟨-, base, about, -⟩
      exact about.ne_none unknown
  | emptySelection _ about nothing =>
      refine iff_of_false (by simp) ?_
      rintro ⟨-, base, about', f, hf, selectable⟩
      rw [← about.eq about'] at hf selectable
      exact nothing f hf selectable
  | compiled object about something plan query => exact iff_of_true ⟨plan, query, rfl⟩ ⟨object, _, about, something⟩

end Outcome

/-- Compiling a value fails for exactly these reasons. It must be an object; its resource must be one that the index
knows, and the refusal carries its text and all canonical names; and one of the references that it asks for must be a
field of the base or of the target of an accepted join. Then it compiles. In particular an accepted plan always
compiles, and a plan that compiles goes on to do so whatever its filters, its order and its limit become and whatever
joins are requested besides, as long as those among the first requests stay there. -/
theorem compileValue_outcomes (c : Contract) (v : Json.Value) :
    ((∃ reason, compileValue (.ofContract c) v = .error (.notAnObject reason)) ↔ v.isObject = false)
      ∧ (∀ got allowed, compileValue (.ofContract c) v = .error (.resourceNotAllowed got allowed) ↔
          v.isObject = true ∧ (Index.ofContract c).resolve (textOfMember v "resource") = none
            ∧ got = textOfMember v "resource" ∧ allowed = c.resourceNames)
      ∧ (compileValue (.ofContract c) v = .error .emptySelection ↔
          v.isObject = true ∧ ∃ base, IsAbout c v base
            ∧ ∀ f ∈ requestedRefs base v, ¬IsSelectable c base (readPlan v).joins f)
      ∧ ((∃ plan query, compileValue (.ofContract c) v = .ok (plan, query)) ↔
          v.isObject = true ∧ ∃ base, IsAbout c v base
            ∧ ∃ f ∈ requestedRefs base v, IsSelectable c base (readPlan v).joins f)
      ∧ (∀ index raw plan, validate ⟨c, index⟩ raw = .ok plan → ∃ query, compilePlan ⟨c, index⟩ plan = .ok query)
      ∧ ∀ w : Json.Value, w.isObject = true → w.get? "resource" = v.get? "resource" →
          w.get? "select" = v.get? "select" → (readPlan v).joins.take maxJoins ⊆ (readPlan w).joins.take maxJoins →
          (∃ plan query, compileValue (.ofContract c) v = .ok (plan, query)) →
          ∃ plan query, compileValue (.ofContract c) w = .ok (plan, query) := by
  have houtcome := outcome_compileValue c v
  refine ⟨houtcome.eq_notAnObject_iff, houtcome.eq_notAllowed_iff, houtcome.eq_emptySelection_iff, houtcome.eq_ok_iff,
    fun index raw plan => exists_compilePlan_of_validate, ?_⟩
  intro w hobject hresource hselect hjoins hcompiles
  rw [houtcome.eq_ok_iff] at hcompiles
  rw [(outcome_compileValue c w).eq_ok_iff]
  -- the reference that was selected before is asked for again, and more joins do not make it invalid
  obtain ⟨-, base, habout, f, hf, hselectable⟩ := hcompiles
  have hname : textOfMember w "resource" = textOfMember v "resource" := by rw [textOfMember, textOfMember, hresource]
  have hrefs : requestedRefs base w = requestedRefs base v := by
    rw [requestedRefs, requestedRefs, Plan.readSelect, Plan.readSelect, hselect]
  refine ⟨hobject, base, ?_, f, hrefs ▸ hf, hselectable.mono hjoins⟩
  rw [IsAbout, hname]
  exact habout

/-- A plan for the rooms of shelves, which can be selected where the shelves are joined. -/
def roomsPlan : Json.Value :=
  .object [("joins", .list [.object [("resource", .string "Shelf")]]), ("resource", .string "books"),
    ("select", .list [.string "Shelf.room"])]

/-- The same selection with a join more, and with a limit, filters and an order that make no sense. -/
def oddRoomsPlan : Json.Value :=
  .object [("joins", .list [.number (.natural 7), .object [("resource", .string "Shelf")]]),
    ("limit", .list [.null, .null]), ("resource", .string "books"), ("select", .list [.string "Shelf.room"]),
    ("sort", .string "up"), ("where", .list [.object [("field", .string "Shelf.floor"), ("op", .boolean true)]])]

/-- Neither the odd parts of a plan nor one more join keep it from compiling. Without its join nothing of it can be
selected, and a resource that the index does not know is refused with the names that it does know. -/
theorem compileValue_oddRoomsPlan :
    (∃ plan query, compileValue (.ofContract Contract.Library.contract) oddRoomsPlan = .ok (plan, query))
      ∧ compileValue (.ofContract Contract.Library.contract)
          (.object [("resource", .string "books"), ("select", .list [.string "Shelf.room"])]) = .error .emptySelection
      ∧ compileValue (.ofContract Contract.Library.contract) (.object [("resource", .string "Paper")]) =
          .error (.resourceNotAllowed "Paper" ["Book", "Shelf"]) := by
  have hcompiles : ∃ plan query, compileValue (.ofContract Contract.Library.contract) roomsPlan = .ok (plan, query) :=
    ⟨_, _, rfl⟩
  have hjoins : (readPlan roomsPlan).joins.take maxJoins ⊆ (readPlan oddRoomsPlan).joins.take maxJoins :=
    List.subset_cons_self none [some "Shelf"]
  refine ⟨?_, ?_, ?_⟩
  · exact (compileValue_outcomes Contract.Library.contract roomsPlan).2.2.2.2.2 oddRoomsPlan rfl rfl rfl hjoins
      hcompiles
  · refine (compileValue_outcomes Contract.Library.contract _).2.2.1.2
      ⟨rfl, Contract.Library.book, ⟨"Book", rfl, rfl⟩, ?_⟩
    intro f hf
    rw [List.mem_singleton.1 hf]
    rintro (⟨hrelation, -⟩ | ⟨l, -, hrequest, -⟩)
    · cases hrelation
    · exact List.not_mem_nil hrequest
  · exact ((compileValue_outcomes Contract.Library.contract _).2.1 _ _).2 ⟨rfl, rfl, rfl, rfl⟩

end QueryGate.Compile
