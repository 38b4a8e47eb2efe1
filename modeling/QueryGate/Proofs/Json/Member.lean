import QueryGate.Json.Value
import QueryGate.Proofs.NameTable
/-!
Members of objects that are put in and taken out. Either changes what stands under its own name and nothing else.
-/
set_option autoImplicit false

namespace QueryGate.Json

/-- After a member is put in its own name leads to the new value, and every other name to where it led before. -/
theorem lookup_insertMember (key : String) (value : Value) (members : List (String × Value)) (name : String) :
    (Value.insertMember key value members).lookup name = if name = key then some value else members.lookup name := by
  induction members with
  | nil => rw [Value.insertMember, NameTable.lookup_cons_eq_ite]
  | cons m rest ih =>
      obtain ⟨k, v⟩ := m
      unfold Value.insertMember
      by_cases hkey : key = k
      · subst hkey
        rw [if_pos rfl, NameTable.lookup_cons_eq_ite, NameTable.lookup_cons_eq_ite]
        by_cases hname : name = key
        · rw [if_pos hname, if_pos hname]
        · rw [if_neg hname, if_neg hname, if_neg hname]
      · rw [if_neg hkey]
        by_cases hbefore : key < k
        · rw [if_pos hbefore, NameTable.lookup_cons_eq_ite]
        · rw [if_neg hbefore, NameTable.lookup_cons_eq_ite, ih, NameTable.lookup_cons_eq_ite]
          by_cases hname : name = k
          · subst hname
            rw [if_pos rfl, if_pos rfl, if_neg (Ne.symm hkey)]
          · rw [if_neg hname, if_neg hname]

namespace Value

/-- An object with a member put in under a name, in the place of one that stands there; anything else as it is. -/
def put (v : Value) (name : String) (value : Value) : Value :=
  match v with
  | object members => object (insertMember name value members)
  | v => v

/-- An object without the members under a name; anything else as it is. -/
def without (v : Value) (name : String) : Value :=
  match v with
  | object members => object (members.filter fun m => m.1 ≠ name)
  | v => v

@[simp] theorem isObject_put (v : Value) (name : String) (value : Value) :
    (v.put name value).isObject = v.isObject := by
  cases v <;> rfl

@[simp] theorem isObject_without (v : Value) (name : String) : (v.without name).isObject = v.isObject := by
  cases v <;> rfl

theorem get?_put_self {v : Value} (h : v.isObject = true) (name : String) (value : Value) :
    (v.put name value).get? name = some value := by
  cases v with
  | object members => exact (lookup_insertMember name value members name).trans (if_pos rfl)
  | _ => cases h

theorem get?_put_of_ne (v : Value) {name other : String} (h : other ≠ name) (value : Value) :
    (v.put name value).get? other = v.get? other := by
  cases v with
  | object members => exact (lookup_insertMember name value members other).trans (if_neg h)
  | _ => rfl

theorem get?_without_of_ne (v : Value) {name other : String} (h : other ≠ name) :
    (v.without name).get? other = v.get? other := by
  cases v with
  | object members => exact NameTable.lookup_filter_ne h members
  | _ => rfl

/-- Only objects have members. -/
theorem isObject_of_get? {v value : Value} {name : String} (h : v.get? name = some value) : v.isObject = true := by
  cases v with
  | object members => rfl
  | _ => cases h

end Value

end QueryGate.Json
