import QueryGate.NameTable
/-!
Looking up in tables: a name leads to the value under which it is entered, an assignment changes the value of its own
name only, and the names are those of the entries.
-/
set_option autoImplicit false

namespace QueryGate.NameTable

variable {α : Type}

/-- The first entry of a name counts. -/
theorem lookup_cons_eq_ite (n m : String) (v : α) (rest : List (String × α)) :
    List.lookup n ((m, v) :: rest) = if n = m then some v else rest.lookup n := by
  rw [List.lookup_cons]
  by_cases h : n = m
  · rw [if_pos h, beq_iff_eq.2 h]
  · rw [if_neg h, beq_eq_false_iff_ne.2 h]

/-- After the entries of a key are taken out every other key leads to where it led before. -/
theorem lookup_filter_ne {κ : Type} [BEq κ] [LawfulBEq κ] [DecidableEq κ] {key removed : κ} (h : key ≠ removed)
    (entries : List (κ × α)) : (entries.filter fun e => e.1 ≠ removed).lookup key = entries.lookup key := by
  induction entries with
  | nil => rfl
  | cons e rest ih =>
      obtain ⟨other, value⟩ := e
      by_cases hother : other = removed
      · have hkey : (key == other) = false := beq_eq_false_iff_ne.2 (hother ▸ h)
        rw [List.filter_cons_of_neg (by simp [hother]), ih, List.lookup_cons, hkey]
      · rw [List.filter_cons_of_pos (by simp [hother]), List.lookup_cons, List.lookup_cons, ih]

/-- After an assignment to entries its own name leads to the new value, and every other name to where it led before. -/
theorem lookup_assignIn (name : String) (value : α) (n : String) (entries : List (String × α)) :
    (assignIn name value entries).lookup n = if n = name then some value else entries.lookup n := by
  induction entries with
  | nil => rw [assignIn, lookup_cons_eq_ite]
  | cons e rest ih =>
      obtain ⟨m, v⟩ := e
      unfold assignIn
      by_cases hm : m = name
      · subst hm
        rw [if_pos rfl, lookup_cons_eq_ite, lookup_cons_eq_ite]
        by_cases h : n = m
        · rw [if_pos h, if_pos h]
        · rw [if_neg h, if_neg h, if_neg h]
      · rw [if_neg hm, lookup_cons_eq_ite, lookup_cons_eq_ite, ih]
        by_cases h : n = m
        · subst h
          rw [if_pos rfl, if_pos rfl, if_neg hm]
        · rw [if_neg h, if_neg h]

/-- An assignment to a table changes where its own name leads, and nothing else. -/
theorem get?_assign (t : NameTable α) (name : String) (value : α) (n : String) :
    (t.assign name value).get? n = if n = name then some value else t.get? n :=
  lookup_assignIn name value n t.entries

/-- In entries of distinct names a name leads to a value exactly if it is entered with that value. -/
theorem lookup_eq_some_iff_mem {entries : List (String × α)} (h : (entries.map Prod.fst).Nodup) (name : String)
    (value : α) : entries.lookup name = some value ↔ (name, value) ∈ entries := by
  induction entries with
  | nil => simp
  | cons e rest ih =>
      obtain ⟨m, v⟩ := e
      rw [List.map_cons, List.nodup_cons] at h
      obtain ⟨hm, hrest⟩ := h
      rw [lookup_cons_eq_ite]
      by_cases hn : name = m
      · subst hn
        have hnot : (name, value) ∉ rest := fun hmem => hm (List.mem_map.2 ⟨_, hmem, rfl⟩)
        simp [hnot, eq_comm]
      · simp [hn, ih hrest]

/-- In a table a name leads to a value exactly if it is entered with that value. -/
theorem get?_eq_some_iff_mem (t : NameTable α) (name : String) (value : α) :
    t.get? name = some value ↔ (name, value) ∈ t.entries :=
  lookup_eq_some_iff_mem t.nodup name value

/-- A table contains the names that lead to a value. -/
theorem contains_eq_true_iff (t : NameTable α) (name : String) :
    t.contains name = true ↔ ∃ value, t.get? name = some value := by
  rw [contains, Option.isSome_iff_exists]

/-- A name that is not there goes to the end. -/
theorem assignIn_of_not_mem {name : String} (value : α) {entries : List (String × α)}
    (h : name ∉ entries.map Prod.fst) : assignIn name value entries = entries ++ [(name, value)] := by
  induction entries with
  | nil => rfl
  | cons e rest ih =>
      obtain ⟨m, v⟩ := e
      rw [List.map_cons, List.mem_cons, not_or] at h
      rw [assignIn, if_neg (Ne.symm h.1), ih h.2, List.cons_append]

/-- Declarations of names that are new go to the end in their order. -/
theorem entries_foldl_assign {declarations : List (String × α)} {t : NameTable α}
    (h : ((t.entries ++ declarations).map Prod.fst).Nodup) :
    (declarations.foldl (fun t d => t.assign d.1 d.2) t).entries = t.entries ++ declarations := by
  induction declarations generalizing t with
  | nil => rw [List.foldl_nil, List.append_nil]
  | cons d rest ih =>
      have hnew : d.1 ∉ t.entries.map Prod.fst := by
        rw [List.map_append, List.map_cons, List.nodup_append] at h
        exact fun hmem => h.2.2 d.1 hmem d.1 List.mem_cons_self rfl
      have hentries : (t.assign d.1 d.2).entries = t.entries ++ [d] := assignIn_of_not_mem d.2 hnew
      rw [List.append_cons, ← hentries] at h
      rw [List.foldl_cons, ih h, hentries, List.append_assoc, List.singleton_append]

/-- A table is the table of its entries. -/
theorem ofList_entries (t : NameTable α) : ofList t.entries = t :=
  ext (entries_foldl_assign t.nodup)

end QueryGate.NameTable
