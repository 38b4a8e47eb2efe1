import QueryGate.Proofs.Plan.Validation
/-!
Plans with null in the place of every value of a filter. Two plans that are the same when they are blank differ in the
values of their filters only. Validation looks at no value, so it commutes with blanking.
-/
set_option autoImplicit false

namespace QueryGate.Plan

open Json

/-! ## Blank plans -/

/-- The filter with null in the place of its value. -/
def RawPredicate.blank (p : RawPredicate) : RawPredicate := { p with value := .null }

/-- The plan with null in the place of the values of its filters. -/
def RawPlan.blank (raw : RawPlan) : RawPlan := { raw with filters := raw.filters.map RawPredicate.blank }

/-- The filter with null in the place of its value. -/
def Predicate.blank (p : Predicate) : Predicate := { p with value := .null }

/-- The accepted plan with null in the place of the values of its filters. -/
def ValidPlan.blank (p : ValidPlan) : ValidPlan := { p with filters := p.filters.map Predicate.blank }

/-- Which filters are kept does not depend on their values. -/
theorem filterMap_validPredicate_blank (valid : FieldRef → Bool) (ps : List RawPredicate) :
    (ps.map RawPredicate.blank).filterMap (validPredicate valid) =
      (ps.filterMap (validPredicate valid)).map Predicate.blank := by
  have hpredicate (p : RawPredicate) : validPredicate valid p.blank = (validPredicate valid p).map Predicate.blank := by
    rw [validPredicate, validPredicate, RawPredicate.blank]
    by_cases hvalid : valid (FieldRef.ofText p.field) = true
    · simp only [if_pos hvalid]
      rfl
    · simp only [if_neg hvalid]
      rfl
  rw [List.filterMap_map, List.map_filterMap]
  exact congrFun (congrArg List.filterMap (funext hpredicate)) ps

/-- What is kept of a blank plan is the blank plan that is kept. -/
theorem keptPlan_blank (c : Contract) (resource : String) (base : Contract.ResourceInfo) (raw : RawPlan) :
    keptPlan c resource base raw.blank = (keptPlan c resource base raw).blank := by
  rw [keptPlan, RawPlan.blank]
  simp only [filterMap_validPredicate_blank]
  rfl

/-- A blank plan fails as the plan does, or is accepted as the blank accepted plan. -/
theorem validate_blank (catalog : Catalog) (raw : RawPlan) :
    validate catalog raw.blank = (validate catalog raw).map ValidPlan.blank := by
  have hselect (resource : String) (base : Contract.ResourceInfo) :
      (keptPlan catalog.contract resource base raw.blank).select =
        (keptPlan catalog.contract resource base raw).select := rfl
  have hresource : raw.blank.resource = raw.resource := rfl
  rw [validate_eq, validate_eq, hresource]
  cases catalog.resolve raw.resource with
  | error e => rfl
  | ok found =>
      obtain ⟨resource, base⟩ := found
      simp only [hselect]
      split
      · rfl
      · rw [keptPlan_blank]
        rfl

/-! ## Blank values -/

/-- A filter in a plan without its value; anything else as it is. -/
def withoutValue : Value → Value
  | .object members => .object (members.filter fun m => m.1 ≠ "value")
  | v => v

/-- The filters of a plan without their values. -/
def withoutValues : Value → Value
  | .list items => .list (items.map withoutValue)
  | v => v

/-- A plan whose filters have no values. Two values that are the same in this form differ in the `value` members of the
entries of their `where` lists only; there one may have any value, and the other any other or none. -/
def withoutFilterValues : Value → Value
  | .object members => .object (members.map fun m => if m.1 = "where" then (m.1, withoutValues m.2) else m)
  | v => v

/-- Only the filters of a plan change. -/
theorem get?_withoutFilterValues (v : Value) (name : String) :
    (withoutFilterValues v).get? name = if name = "where" then (v.get? name).map withoutValues else v.get? name := by
  have hlookup (members : List (String × Value)) :
      (members.map fun m => if m.1 = "where" then (m.1, withoutValues m.2) else m).lookup name =
        if name = "where" then (members.lookup name).map withoutValues else members.lookup name := by
    induction members with
    | nil => simp
    | cons m rest ih =>
        obtain ⟨n, value⟩ := m
        rw [List.map_cons, NameTable.lookup_cons_eq_ite]
        -- names stay as they are, so the same member is found
        by_cases hn : n = "where"
        · rw [if_pos hn, NameTable.lookup_cons_eq_ite, ih]
          by_cases hname : name = n
          · rw [if_pos hname, if_pos hname, if_pos (hname.trans hn)]
            rfl
          · rw [if_neg hname, if_neg hname]
        · rw [if_neg hn, NameTable.lookup_cons_eq_ite, ih]
          by_cases hname : name = n
          · rw [if_pos hname, if_pos hname, if_neg (hname ▸ hn)]
          · rw [if_neg hname, if_neg hname]
  cases v with
  | object members => exact hlookup members
  | _ => simp [withoutFilterValues, Value.get?]

theorem get?_withoutValue (v : Value) {name : String} (h : name ≠ "value") :
    (withoutValue v).get? name = v.get? name := by
  cases v with
  | object members => exact NameTable.lookup_filter_ne h members
  | _ => rfl

theorem get?_value_withoutValue {v : Value} (h : v.isObject = true) : (withoutValue v).get? "value" = none := by
  cases v with
  | object members =>
      refine List.lookup_eq_none_iff.2 ?_
      intro m hm
      have hne : m.1 ≠ "value" := of_decide_eq_true (List.mem_filter.1 hm).2
      exact bne_iff_ne.2 hne.symm
  | _ => cases h

/-- A filter without its value is read as the blank filter. -/
theorem readPredicate_withoutValue {v : Value} (h : v.isObject = true) :
    readPredicate (withoutValue v) = (readPredicate v).blank := by
  rw [readPredicate, readPredicate, RawPredicate.blank, textOfMember, textOfMember, get?_withoutValue v (by decide),
    get?_withoutValue v (by decide), get?_value_withoutValue h]
  rfl

/-- The entries of a plan's filters lose their values. -/
theorem itemsOfMember_where (v : Value) :
    itemsOfMember (withoutFilterValues v) "where" = (itemsOfMember v "where").map withoutValue := by
  rw [itemsOfMember, itemsOfMember, get?_withoutFilterValues, if_pos rfl]
  cases v.get? "where" with
  | none => rfl
  | some filters => cases filters <;> rfl

/-- A plan without the values of its filters is read as the blank plan. -/
theorem readPlan_withoutFilterValues (v : Value) : readPlan (withoutFilterValues v) = (readPlan v).blank := by
  have hobject (w : Value) : (withoutValue w).isObject = w.isObject := by
    cases w <;> rfl
  have hfilters : ((itemsOfMember (withoutFilterValues v) "where").filter Value.isObject).map readPredicate =
      (((itemsOfMember v "where").filter Value.isObject).map readPredicate).map RawPredicate.blank := by
    rw [itemsOfMember_where, List.filter_map, List.map_map, List.map_map]
    simp only [Function.comp_def, hobject]
    apply List.map_congr_left
    intro w hw
    exact readPredicate_withoutValue (List.mem_filter.1 hw).2
  rw [readPlan, readPlan, RawPlan.blank, hfilters]
  simp only [textOfMember, itemsOfMember, readSelect, get?_withoutFilterValues, String.reduceEq, reduceIte]

/-- Whether a value is a plan does not depend on its filters. -/
theorem ofValue_withoutFilterValues (v : Value) :
    RawPlan.ofValue (withoutFilterValues v) = (RawPlan.ofValue v).map RawPlan.blank := by
  cases v with
  | object members => exact congrArg Except.ok (readPlan_withoutFilterValues (.object members))
  | _ => rfl

end QueryGate.Plan
