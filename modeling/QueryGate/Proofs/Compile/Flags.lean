import QueryGate.Contract.Describe
import QueryGate.Contract.Storefront
import QueryGate.Proofs.Compile.OtherContract
/-!
The flags of resources. A contract says of each resource whether it may be filtered and sorted by, and the description
for those who write plans repeats that. The flags are announced and not enforced: whatever they are, a plan is validated
and compiled in the same way, with the filters and the order that it asks for and with the order by discounts where it
asks for none.
-/
set_option autoImplicit false

namespace QueryGate

/-! ## Contracts with other flags -/

namespace Contract

/-- What a contract says about the use of a resource. -/
structure Flags where
  filterable : Bool
  sortable : Bool

/-- A resource with other flags. -/
def ResourceInfo.setFlags (r : ResourceInfo) (flags : Flags) : ResourceInfo :=
  { r with filterable := flags.filterable, sortable := flags.sortable }

/-- A contract with other flags for each of its resources. -/
def setFlags (c : Contract) (flags : String → Flags) : Contract where
  resources :=
    ⟨c.resources.entries.map fun e => (e.1, e.2.setFlags (flags e.1)), by
      rw [List.map_map]
      exact c.resources.nodup⟩

variable (c : Contract) (flags : String → Flags)

/-- A name leads to the same resource with other flags. -/
theorem resource?_setFlags (name : String) :
    (c.setFlags flags).resource? name = (c.resource? name).map (·.setFlags (flags name)) := by
  have hlookup (entries : List (String × ResourceInfo)) :
      (entries.map fun e => (e.1, e.2.setFlags (flags e.1))).lookup name =
        (entries.lookup name).map (·.setFlags (flags name)) := by
    induction entries with
    | nil => rfl
    | cons e rest ih =>
        obtain ⟨other, info⟩ := e
        rw [List.map_cons, NameTable.lookup_cons_eq_ite, NameTable.lookup_cons_eq_ite, ih]
        by_cases h : name = other
        · rw [if_pos h, if_pos h, h]
          rfl
        · rw [if_neg h, if_neg h]
  exact hlookup c.resources.entries

theorem resourceNames_setFlags : (c.setFlags flags).resourceNames = c.resourceNames := by
  have hnames : (c.setFlags flags).resourceNames =
      (c.resources.entries.map fun e => (e.1, e.2.setFlags (flags e.1))).map Prod.fst := rfl
  rw [hnames, List.map_map]
  rfl

/-! ## What is described -/

/-- In the paragraph of a resource the flags have a line of their own, and nothing else there depends on them. -/
theorem exists_describeResource_setFlags (name : String) (r : ResourceInfo) :
    ∃ before after, ∀ f : Flags, describeResource name (r.setFlags f) =
      before ++ "Filterable: " ++ yesNo f.filterable ++ " | Sortable: " ++ yesNo f.sortable ++ "\n" ++ after := by
  have hline (before relations : String) : ∃ above below, ∀ f : Flags,
      before ++ "Filterable: " ++ yesNo f.filterable ++ " | Sortable: " ++ yesNo f.sortable ++ "\n" ++ relations
          ++ "\n" =
        above ++ "Filterable: " ++ yesNo f.filterable ++ " | Sortable: " ++ yesNo f.sortable ++ "\n" ++ below :=
    ⟨before, relations ++ "\n", fun _ => String.append_assoc⟩
  -- what stands before the line and after it is made of other parts of the resource
  unfold describeResource
  dsimp +instances only [ResourceInfo.setFlags]
  exact hline _ _

/-- In the description of a contract the flags of each resource have a line, and nothing else depends on them. -/
theorem exists_describe_setFlags :
    ∃ before after : String × ResourceInfo → String, ∀ flags : String → Flags, describe (c.setFlags flags) =
      "SCHEMA (only these resources and fields may be used):\n\n"
        ++ String.join (c.resources.entries.map fun e =>
          before e ++ "Filterable: " ++ yesNo (flags e.1).filterable ++ " | Sortable: " ++ yesNo (flags e.1).sortable
            ++ "\n" ++ after e)
        ++ "Answer with a JSON query plan. Never write SQL.\n" := by
  choose before after h using fun e : String × ResourceInfo => exists_describeResource_setFlags e.1 e.2
  refine ⟨before, after, fun flags => ?_⟩
  have hparagraphs : ((c.setFlags flags).resources.entries.map fun e => describeResource e.1 e.2) =
      c.resources.entries.map fun e => describeResource e.1 (e.2.setFlags (flags e.1)) := by
    rw [setFlags, List.map_map]
    rfl
  have hlines : (c.resources.entries.map fun e => describeResource e.1 (e.2.setFlags (flags e.1))) =
      c.resources.entries.map fun e => before e ++ "Filterable: " ++ yesNo (flags e.1).filterable ++ " | Sortable: "
        ++ yesNo (flags e.1).sortable ++ "\n" ++ after e :=
    List.map_congr_left fun e _ => h e (flags e.1)
  unfold describe
  rw [hparagraphs, hlines]

end Contract

namespace Plan

open Contract

variable (c : Contract) (flags : String → Flags)

/-! ## What is validated -/

theorem ofContract_setFlags : Index.ofContract (c.setFlags flags) = Index.ofContract c := by
  -- a resource is entered under its names, and the flags are none of them
  rw [Index.ofContract, Contract.setFlags, List.foldl_map]
  rfl

theorem notAllowed_setFlags (name : String) :
    (Catalog.ofContract (c.setFlags flags)).notAllowed name = (Catalog.ofContract c).notAllowed name :=
  congrArg (PlanError.resourceNotAllowed name) (c.resourceNames_setFlags flags)

/-- A name leads to the same resource, with its flags, and fails in the same way. -/
theorem resolve_setFlags (name : String) :
    (Catalog.ofContract (c.setFlags flags)).resolve name =
      ((Catalog.ofContract c).resolve name).map fun found => (found.1, found.2.setFlags (flags found.1)) := by
  have hindex : (Catalog.ofContract (c.setFlags flags)).index = (Catalog.ofContract c).index :=
    ofContract_setFlags c flags
  have hfound (canonical : String) :
      (Catalog.ofContract (c.setFlags flags)).contract.resource? canonical =
        ((Catalog.ofContract c).contract.resource? canonical).map (·.setFlags (flags canonical)) :=
    c.resource?_setFlags flags canonical
  rw [Catalog.resolve, Catalog.resolve, hindex, notAllowed_setFlags]
  cases (Catalog.ofContract c).index.resolve name with
  | none => rfl
  | some canonical =>
      simp only [Option.bind_some, hfound]
      cases (Catalog.ofContract c).contract.resource? canonical <;> rfl

theorem lookup_setFlags (name : String) :
    (Catalog.ofContract (c.setFlags flags)).lookup name =
      ((Catalog.ofContract c).lookup name).map (·.setFlags (flags name)) := by
  have hfound : (Catalog.ofContract (c.setFlags flags)).contract.resource? name =
      ((Catalog.ofContract c).contract.resource? name).map (·.setFlags (flags name)) := c.resource?_setFlags flags name
  rw [Catalog.lookup, Catalog.lookup, hfound, notAllowed_setFlags]
  cases (Catalog.ofContract c).contract.resource? name <;> rfl

variable (base : ResourceInfo) (f : Flags)

theorem validJoins_setFlags (requests : List (Option String)) :
    validJoins (c.setFlags flags) (base.setFlags f) requests = validJoins c base requests := by
  have hjoin : joinOf (c.setFlags flags) (base.setFlags f) = joinOf c base := by
    funext request
    simp only [joinOf, c.resource?_setFlags flags, Option.isSome_map]
    rfl
  rw [validJoins, validJoins, hjoin]

/-- A reference reads from the same resource with other flags, so from the same fields. -/
theorem map_fields_resourceOf_setFlags (joins : List ValidJoin) (ref : FieldRef) :
    (resourceOf (c.setFlags flags) (base.setFlags f) joins ref).map (·.fields) =
      (resourceOf c base joins ref).map (·.fields) := by
  obtain ⟨relation, name⟩ := ref
  cases relation with
  | none => rfl
  | some relation =>
      simp only [resourceOf, c.resource?_setFlags flags, Option.map_bind, Function.comp_def, Option.map_map]
      rfl

theorem isValidRef_setFlags (joins : List ValidJoin) :
    isValidRef (c.setFlags flags) (base.setFlags f) joins = isValidRef c base joins := by
  have hfields (c : Contract) (base : ResourceInfo) (ref : FieldRef) : isValidRef c base joins ref =
      ((resourceOf c base joins ref).map (·.fields)).any (·.contains ref.field) := by
    unfold isValidRef
    cases resourceOf c base joins ref <;> rfl
  funext ref
  rw [hfields, hfields, map_fields_resourceOf_setFlags]

/-- The same is kept of a plan. -/
theorem keptPlan_setFlags (resource : String) (raw : RawPlan) :
    keptPlan (c.setFlags flags) resource (base.setFlags f) raw = keptPlan c resource base raw := by
  unfold keptPlan
  rw [validJoins_setFlags, isValidRef_setFlags]
  rfl

theorem validate_setFlags (raw : RawPlan) :
    validate (.ofContract (c.setFlags flags)) raw = validate (.ofContract c) raw := by
  rw [validate_eq, validate_eq, resolve_setFlags]
  cases (Catalog.ofContract c).resolve raw.resource with
  | error e => rfl
  | ok found =>
      have hkept : keptPlan (Catalog.ofContract (c.setFlags flags)).contract found.1
          (found.2.setFlags (flags found.1)) raw = keptPlan (Catalog.ofContract c).contract found.1 found.2 raw :=
        keptPlan_setFlags c flags found.2 (flags found.1) found.1 raw
      simp only [Except.map, hkept]

end Plan

namespace Compile

open Contract Plan Statement

/-! ## What is compiled -/

variable (c : Contract) (flags : String → Flags)

theorem joinClause_setFlags : joinClause (.ofContract (c.setFlags flags)) = joinClause (.ofContract c) := by
  funext j
  rw [joinClause, joinClause, lookup_setFlags]
  cases (Catalog.ofContract c).lookup j.targetResource <;> rfl

/-- In the scopes of two contracts that differ in flags a plan has the same statement. -/
theorem selectWith_setFlags (base : ResourceInfo) (f : Flags) (plan : ValidPlan) (joins : List Join) :
    selectWith (scopeOf (c.setFlags flags) (base.setFlags f) plan) joins = selectWith (scopeOf c base plan) joins := by
  have htype (ref : FieldRef) :
      typeOf (scopeOf (c.setFlags flags) (base.setFlags f) plan) ref = typeOf (scopeOf c base plan) ref := by
    have hfields (c : Contract) (base : ResourceInfo) : (scopeOf c base plan).field? ref =
        ((resourceOf c base plan.joins ref).map (·.fields)).bind (·.get? ref.field) := by
      rw [Option.bind_map]
      rfl
    rw [typeOf, typeOf, hfields, hfields, map_fields_resourceOf_setFlags]
  have hcondition : condition (scopeOf (c.setFlags flags) (base.setFlags f) plan) = condition (scopeOf c base plan) := by
    have hpredicate : predicateCondition (scopeOf (c.setFlags flags) (base.setFlags f) plan) =
        predicateCondition (scopeOf c base plan) := by
      funext p
      rw [predicateCondition, predicateCondition, htype]
      rfl
    rw [condition, condition, hpredicate]
    rfl
  rw [selectWith, selectWith, hcondition]
  rfl

theorem compilePlan_setFlags (plan : ValidPlan) :
    compilePlan (.ofContract (c.setFlags flags)) plan = compilePlan (.ofContract c) plan := by
  rw [compilePlan_eq, compilePlan_eq, lookup_setFlags, joinClause_setFlags]
  cases (Catalog.ofContract c).lookup plan.resource with
  | error e => rfl
  | ok base =>
      cases plan.joins.mapM (joinClause (.ofContract c)) with
      | error e => rfl
      | ok joins =>
          have hselect := selectWith_setFlags c flags base (flags plan.resource) plan joins
          exact congrArg (fun select => Except.ok (Query.mk plan.resource select)) hselect

/-- Whatever the flags are, a value compiles in the same way. -/
theorem compileValue_setFlags_eq (v : Json.Value) :
    compileValue (.ofContract (c.setFlags flags)) v = compileValue (.ofContract c) v := by
  unfold compileValue compileRaw
  simp only [validate_setFlags, compilePlan_setFlags]

/-- A statement has no order exactly if its plan has none and is not ordered by discounts. -/
theorem order_eq_nil_iff (s : Scope) : order s = [] ↔ s.plan.sort = [] ∧ ¬boundsDiscount s = true := by
  unfold order
  split
  · rename_i hsort
    rw [hsort, ite_eq_right_iff]
    simp
  · rename_i key rest hsort
    rw [hsort]
    simp

/-- The flags of a contract do not matter to what is compiled. Whatever they are, a value fails in the same way or gives
the same plan and statement: the plan keeps the filters and the keys of the order whose fields are valid, there is a
condition exactly if it keeps a filter, and an order exactly if it keeps a key or bounds a discount from below. In the
description of the contract the flags of a resource have one line, and nothing else that is described depends on them. -/
theorem compileValue_setFlags (c : Contract) (flags : String → Flags) (v : Json.Value) :
    compileValue (.ofContract (c.setFlags flags)) v = compileValue (.ofContract c) v
      ∧ (∀ plan query, compileValue (.ofContract (c.setFlags flags)) v = .ok (plan, query) →
        ∃ base, c.resource? plan.resource = some base
          ∧ plan.filters = (readPlan v).filters.filterMap (validPredicate (isValidRef c base plan.joins))
          ∧ plan.sort = (readPlan v).sort.filterMap (validSortKey (isValidRef c base plan.joins))
          ∧ (query.select.condition = .boolean true ↔ plan.filters = [])
          ∧ (query.select.order = [] ↔ plan.sort = [] ∧ ¬OrdersByDiscount c plan))
      ∧ ∃ before after : String × ResourceInfo → String, ∀ flags : String → Flags,
        describe (c.setFlags flags) = "SCHEMA (only these resources and fields may be used):\n\n"
          ++ String.join (c.resources.entries.map fun e =>
            before e ++ "Filterable: " ++ yesNo (flags e.1).filterable ++ " | Sortable: "
              ++ yesNo (flags e.1).sortable ++ "\n" ++ after e)
          ++ "Answer with a JSON query plan. Never write SQL.\n" := by
  refine ⟨compileValue_setFlags_eq c flags v, ?_, exists_describe_setFlags c⟩
  intro plan query h
  rw [compileValue_setFlags_eq] at h
  obtain ⟨-, hraw⟩ := (compileValue_eq_ok_iff _ v _).1 h
  obtain ⟨hvalid, hcompiled⟩ := (compileRaw_eq_ok_iff _ _ plan query).1 hraw
  obtain ⟨base, hresolve, hkept, -⟩ := (validate_eq_ok_iff _ _ plan).1 hvalid
  have hbase : c.resource? plan.resource = some base := ((Catalog.resolve_eq_ok_iff _ _ _ base).1 hresolve).2
  have hjoins : validJoins c base (readPlan v).joins = plan.joins := congrArg (·.joins) hkept
  have hfilters : (keptPlan c plan.resource base (readPlan v)).filters = plan.filters := congrArg (·.filters) hkept
  have hsort : (keptPlan c plan.resource base (readPlan v)).sort = plan.sort := congrArg (·.sort) hkept
  obtain ⟨info, joins, hinfo, -, rfl⟩ := exists_selectWith_of_compilePlan hcompiled
  obtain rfl : base = info := Option.some.inj (hbase.symm.trans hinfo)
  refine ⟨base, hbase, ?_, ?_, condition_eq_true_iff _, ?_⟩
  · rw [← hfilters, ← hjoins, keptPlan]
  · rw [← hsort, ← hjoins, keptPlan]
  · rw [← boundsDiscount_eq_true_iff hbase]
    exact order_eq_nil_iff _

namespace Reviews

/-- The statistics of reviews alone. -/
def contract : Contract := ⟨.ofList [("FeedbackStat", Storefront.feedbackStat)]⟩

/-- A plan for the products with at least four stars, those with the most stars first. -/
def plan : Json.Value :=
  .object [("resource", .string "FeedbackStat"),
    ("sort", .list [.object [("dir", .string "desc"), ("field", .string "avg_star")]]),
    ("where", .list [.object [("field", .string "avg_star"), ("op", .string "gte"), ("value", .number (.natural 4))]])]

end Reviews

/-- The statistics of reviews are declared as neither to be filtered nor to be sorted by, and yet a plan for them that
does both compiles to a statement with a condition and an order. -/
theorem compileValue_reviews :
    Reviews.contract.resource? "FeedbackStat" = some Storefront.feedbackStat
      ∧ Storefront.feedbackStat.filterable = false ∧ Storefront.feedbackStat.sortable = false
      ∧ ∃ plan query, compileValue (.ofContract Reviews.contract) Reviews.plan = .ok (plan, query)
        ∧ plan.resource = "FeedbackStat" ∧ plan.filters ≠ [] ∧ plan.sort ≠ []
        ∧ query.select.condition = .binary (.column "t" "avg_star") .greaterOrEqual
          (.cast (.parameter (.number (.natural 4))) (.base .numeric))
        ∧ query.select.order = [⟨.column "t" "avg_star", .descending⟩] :=
  ⟨rfl, rfl, rfl, _, _, rfl, rfl, List.cons_ne_nil _ _, List.cons_ne_nil _ _, rfl, rfl⟩

/-- If they were declared as both, the same plan would compile to the same statement. -/
theorem compileValue_reviews_setFlags :
    ∃ plan query, compileValue (.ofContract (Reviews.contract.setFlags fun _ => ⟨true, true⟩)) Reviews.plan =
        .ok (plan, query)
      ∧ query.select.condition ≠ .boolean true ∧ query.select.order ≠ [] := by
  have hcompiled : ∃ plan query, compileValue (.ofContract Reviews.contract) Reviews.plan = .ok (plan, query)
      ∧ plan.filters ≠ [] ∧ plan.sort ≠ [] :=
    ⟨_, _, rfl, List.cons_ne_nil _ _, List.cons_ne_nil _ _⟩
  obtain ⟨plan, query, h, hfilters, hsort⟩ := hcompiled
  obtain ⟨hsame, hkept, -⟩ := compileValue_setFlags Reviews.contract (fun _ => ⟨true, true⟩) Reviews.plan
  have hflagged := hsame.trans h
  obtain ⟨base, -, -, -, hcondition, horder⟩ := hkept plan query hflagged
  exact ⟨plan, query, hflagged, fun e => hfilters (hcondition.1 e), fun e => hsort (horder.1 e).1⟩

end Compile

end QueryGate
