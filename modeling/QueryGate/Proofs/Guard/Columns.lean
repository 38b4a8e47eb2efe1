import Mathlib
import QueryGate.Guard.Columns
/-!
Distinct names for columns. The candidates for a name are the name itself and then the name with two, three and so on
after it. They are pairwise different, so of one more candidate than there are taken names one is free: the search for
a free one ends, and with the first that is free.

A name that stands in the list for the first time can still be lost. An earlier column whose name is repeated may have
been given it as a name with a number, and this is the only way.
-/
set_option autoImplicit false

namespace QueryGate.Guard

/-! ## Candidates -/

/-- The candidates for a name in the order in which they are tried. -/
def candidate (name : String) : Nat → String
  | 0 => name
  | n + 1 => numbered name (n + 2)

theorem numbered_injective (name : String) : Function.Injective (numbered name) := by
  intro k l h
  apply Nat.repr_injective
  rw [← String.toList_inj] at h ⊢
  simpa [numbered] using h

/-- A number after a name makes it longer. -/
theorem numbered_ne_self (name : String) (k : Nat) : numbered name k ≠ name := by
  intro h
  have hlength := congrArg String.length h
  simp only [numbered, String.length_append] at hlength
  have hmark : "_".length = 1 := rfl
  omega

theorem candidate_injective (name : String) : Function.Injective (candidate name) := by
  intro m n h
  match m, n with
  | 0, 0 => rfl
  | 0, n + 1 => exact absurd h.symm (numbered_ne_self name (n + 2))
  | m + 1, 0 => exact absurd h (numbered_ne_self name (m + 2))
  | m + 1, n + 1 =>
      have hnumber := numbered_injective name h
      omega

theorem candidate_eq_self_iff {name : String} {n : Nat} : candidate name n = name ↔ n = 0 :=
  (candidate_injective name).eq_iff' rfl

/-! ## The search for a free name -/

/-- The search for a free name, with the number of its last candidate, one for the name itself, and with its turns and
its result: a candidate that is taken is replaced by the one with the next number, for as long as it takes. -/
inductive Search (taken : List String) (name : String) : String → Nat → Nat → String → Prop where
  | free {tried : String} {k : Nat} : tried ∉ taken → Search taken name tried k 0 tried
  | turn {tried result : String} {k turns : Nat} : tried ∈ taken →
      Search taken name (numbered name (k + 1)) (k + 1) turns result → Search taken name tried k (turns + 1) result

/-- The first candidate that is not taken. -/
structure IsFirstFree (taken : List String) (name : String) (n : Nat) : Prop where
  free : candidate name n ∉ taken
  taken_before : ∀ m < n, candidate name m ∈ taken

/-- The first free candidate is the name itself exactly if that is free. -/
theorem IsFirstFree.eq_zero_iff {taken : List String} {name : String} {n : Nat} (h : IsFirstFree taken name n) :
    n = 0 ↔ name ∉ taken := by
  cases n with
  | zero => exact iff_of_true rfl h.free
  | succ n => exact iff_of_false (Nat.succ_ne_zero n) (not_not.2 (h.taken_before 0 (Nat.succ_pos n)))

/-- Of one more candidate than there are taken names one is free. -/
theorem exists_candidate_not_mem (taken : List String) (name : String) :
    ∃ n ≤ taken.length, candidate name n ∉ taken := by
  by_contra hnone
  push Not at hnone
  have hnodup : ((List.range (taken.length + 1)).map (candidate name)).Nodup :=
    (List.nodup_map_iff (candidate_injective name)).2 List.nodup_range
  have hsubset : (List.range (taken.length + 1)).map (candidate name) ⊆ taken := by
    intro tried htried
    obtain ⟨n, hn, rfl⟩ := List.mem_map.1 htried
    exact hnone n (by rw [List.mem_range] at hn; omega)
  have hlength := (hnodup.subperm hsubset).length_le
  rw [List.length_map, List.length_range] at hlength
  omega

theorem exists_isFirstFree (taken : List String) (name : String) :
    ∃ n ≤ taken.length, IsFirstFree taken name n := by
  classical
  have hfree : ∃ n, candidate name n ∉ taken := by
    obtain ⟨n, -, hn⟩ := exists_candidate_not_mem taken name
    exact ⟨n, hn⟩
  obtain ⟨n, hle, hn⟩ := exists_candidate_not_mem taken name
  refine ⟨Nat.find hfree, (Nat.find_min' hfree hn).trans hle, Nat.find_spec hfree, fun m hm => ?_⟩
  exact not_not.1 (Nat.find_min hfree hm)

/-- With enough tries left the first free candidate is found from every candidate before it on. -/
theorem firstFree_eq {taken : List String} {name : String} {n : Nat} (h : IsFirstFree taken name n) {tries m : Nat}
    (hbefore : m + 1 ≤ n) (hwithin : n ≤ m + 1 + tries) :
    firstFree taken name tries (m + 2) = candidate name n := by
  induction tries generalizing m with
  | zero =>
      obtain rfl : n = m + 1 := by omega
      rfl
  | succ tries ih =>
      rw [firstFree]
      by_cases hm : n = m + 1
      · subst hm
        exact if_neg h.free
      · have htaken : numbered name (m + 2) ∈ taken := h.taken_before (m + 1) (by omega)
        rw [if_pos htaken]
        exact ih (by omega) (by omega)

/-- A free name is the first free candidate; the bound on the tries plays no part in it. -/
theorem freeName_eq {taken : List String} {name : String} {n : Nat} (hle : n ≤ taken.length)
    (h : IsFirstFree taken name n) : freeName taken name = candidate name n := by
  rw [freeName]
  cases n with
  | zero => exact if_neg h.free
  | succ n =>
      have htaken : name ∈ taken := h.taken_before 0 (Nat.succ_pos n)
      rw [if_pos htaken]
      exact firstFree_eq h (by omega) (by omega)

theorem exists_freeName_eq (taken : List String) (name : String) :
    ∃ n ≤ taken.length, IsFirstFree taken name n ∧ freeName taken name = candidate name n := by
  obtain ⟨n, hle, hn⟩ := exists_isFirstFree taken name
  exact ⟨n, hle, hn, freeName_eq hle hn⟩

/-- The search from the name itself makes one turn for each candidate before the first free one. -/
theorem IsFirstFree.search {taken : List String} {name : String} {n : Nat} (h : IsFirstFree taken name n) :
    Search taken name name 1 n (candidate name n) := by
  -- counted back from the end: the candidate that is so many turns before it leads to it
  have hfrom (turns : Nat) (hle : turns ≤ n) :
      Search taken name (candidate name (n - turns)) (n - turns + 1) turns (candidate name n) := by
    induction turns with
    | zero => exact .free h.free
    | succ turns ih =>
        apply Search.turn (h.taken_before _ (by omega))
        have hnumber : n - turns = n - (turns + 1) + 1 := by omega
        have hrest := ih (by omega)
        rw [hnumber] at hrest
        exact hrest
  have hsearch := hfrom n (Nat.le_refl n)
  rw [Nat.sub_self] at hsearch
  exact hsearch

/-! ## Columns one by one -/

theorem length_distinctFrom (taken names : List String) : (distinctFrom taken names).length = names.length := by
  induction names generalizing taken with
  | nil => rfl
  | cons name rest ih => rw [distinctFrom, List.length_cons, List.length_cons, ih]

theorem length_distinctColumns (names : List String) : (distinctColumns names).length = names.length :=
  length_distinctFrom [] names

/-- Each column gets a name that is free of those before it. -/
theorem getElem?_distinctFrom (taken names : List String) (i : Nat) :
    (distinctFrom taken names)[i]? =
      names[i]?.map (freeName (((distinctFrom taken names).take i).reverse ++ taken)) := by
  -- the names that are taken grow along the list
  induction names generalizing taken i with
  | nil => rfl
  | cons name rest ih =>
      rw [distinctFrom]
      cases i with
      | zero => rfl
      | succ i =>
          rw [List.getElem?_cons_succ, List.getElem?_cons_succ, ih, List.take_succ_cons, List.reverse_cons,
            List.append_assoc, List.singleton_append]

/-- Every column is given the first candidate for its name that no earlier column has. -/
theorem exists_getElem?_distinctColumns {names : List String} {i : Nat} {name : String}
    (hname : names[i]? = some name) :
    ∃ n ≤ i, IsFirstFree ((distinctColumns names).take i) name n
      ∧ (distinctColumns names)[i]? = some (candidate name n) := by
  obtain ⟨n, hle, hn, heq⟩ := exists_freeName_eq ((distinctColumns names).take i).reverse name
  refine ⟨n, ?_, ⟨?_, ?_⟩, ?_⟩
  · rw [List.length_reverse, List.length_take] at hle
    omega
  · rw [← List.mem_reverse]
    exact hn.free
  · intro m hm
    rw [← List.mem_reverse]
    exact hn.taken_before m hm
  · rw [distinctColumns, getElem?_distinctFrom, hname, List.append_nil]
    exact congrArg some heq

theorem mem_take_iff_getElem? {names : List String} {i : Nat} {name : String} :
    name ∈ names.take i ↔ ∃ j < i, names[j]? = some name := by
  rw [List.mem_take_iff_getElem]
  constructor
  · rintro ⟨j, hj, rfl⟩
    rw [Nat.lt_min] at hj
    exact ⟨j, hj.1, List.getElem?_eq_getElem hj.2⟩
  · rintro ⟨j, hji, hj⟩
    obtain ⟨hlength, heq⟩ := List.getElem?_eq_some_iff.1 hj
    exact ⟨j, lt_min hji hlength, heq⟩

theorem nodup_distinctColumns (names : List String) : (distinctColumns names).Nodup := by
  rw [List.nodup_iff_pairwise_ne, List.pairwise_iff_getElem]
  intro j i hj hi hji heq
  -- the later of the two columns is free of the earlier one
  have hname : i < names.length := by
    rw [length_distinctColumns] at hi
    exact hi
  obtain ⟨n, -, hn, hcolumn⟩ := exists_getElem?_distinctColumns (List.getElem?_eq_getElem hname)
  apply hn.free
  rw [mem_take_iff_getElem?]
  refine ⟨j, hji, ?_⟩
  rw [List.getElem?_eq_getElem hj, heq, ← List.getElem?_eq_getElem hi, hcolumn]

/-- How a column is named where some columns stand before it. -/
structure IsNamed (earlier : List String) (name column : String) : Prop where
  /-- It keeps its name if no earlier column has that. -/
  kept : name ∉ earlier → column = name
  /-- Otherwise it gets the least number from two on with which no earlier column has its name. -/
  numbered : name ∈ earlier → ∃ k, IsLeast {k | 2 ≤ k ∧ numbered name k ∉ earlier} k ∧ column = numbered name k
  /-- The search for its name ends, and makes no more turns than there are earlier columns. -/
  search_ends : ∃ turns ≤ earlier.length, Search earlier name name 1 turns column

theorem IsFirstFree.isLeast {taken : List String} {name : String} {n : Nat} (h : IsFirstFree taken name (n + 1)) :
    IsLeast {k | 2 ≤ k ∧ numbered name k ∉ taken} (n + 2) := by
  refine ⟨⟨by omega, h.free⟩, ?_⟩
  rintro k ⟨hk, hfree⟩
  by_contra hlt
  -- a smaller number belongs to an earlier candidate, which is taken
  obtain ⟨m, rfl⟩ : ∃ m, k = m + 2 := ⟨k - 2, by omega⟩
  exact hfree (h.taken_before (m + 1) (by omega))

/-- Columns get as many names as there are columns, all of them different, and each is named by what stands before
it. -/
theorem isNamed_distinctColumns (names : List String) :
    (distinctColumns names).length = names.length ∧ (distinctColumns names).Nodup
      ∧ ∀ i name, names[i]? = some name →
        ∃ column, (distinctColumns names)[i]? = some column ∧ IsNamed ((distinctColumns names).take i) name column := by
  refine ⟨length_distinctColumns names, nodup_distinctColumns names, fun i name hname => ?_⟩
  obtain ⟨n, hle, hn, hcolumn⟩ := exists_getElem?_distinctColumns hname
  have hi : i < names.length := (List.getElem?_eq_some_iff.1 hname).1
  have hearlier : ((distinctColumns names).take i).length = i := by
    rw [List.length_take, length_distinctColumns]
    omega
  refine ⟨candidate name n, hcolumn, ?_, ?_, n, by rw [hearlier]; exact hle, hn.search⟩
  · intro hfree
    exact candidate_eq_self_iff.2 (hn.eq_zero_iff.2 hfree)
  · intro htaken
    cases n with
    | zero => exact absurd htaken hn.free
    | succ n => exact ⟨n + 2, hn.isLeast, rfl⟩

example : distinctColumns ["id", "created_at", "created_at", "created_at"] =
    ["id", "created_at", "created_at_2", "created_at_3"] := by decide

/-! ## First occurrences -/

/-- A column is given its own name with a number, as an earlier column has that name. -/
def IsNumberedAt (names : List String) (j : Nat) (column : String) : Prop :=
  ∃ name k, names[j]? = some name ∧ 2 ≤ k ∧ column = numbered name k ∧ (distinctColumns names)[j]? = some column

/-- A name is in use before a position exactly if it stands there itself or was made by a number. -/
theorem mem_take_distinctColumns_iff {names : List String} {i : Nat} {name : String} :
    name ∈ (distinctColumns names).take i ↔ name ∈ names.take i ∨ ∃ j < i, IsNumberedAt names j name := by
  constructor
  · intro hmem
    obtain ⟨j, hji, hj⟩ := mem_take_iff_getElem?.1 hmem
    have hjlt : j < names.length := by
      rw [← length_distinctColumns]
      exact (List.getElem?_eq_some_iff.1 hj).1
    have hown : names[j]? = some names[j] := List.getElem?_eq_getElem hjlt
    obtain ⟨n, -, -, hcolumn⟩ := exists_getElem?_distinctColumns hown
    have hname : candidate names[j] n = name := Option.some.inj (hcolumn.symm.trans hj)
    cases n with
    | zero => exact .inl (mem_take_iff_getElem?.2 ⟨j, hji, hname ▸ hown⟩)
    | succ n => exact .inr ⟨j, hji, names[j], n + 2, hown, by omega, hname.symm, hj⟩
  · rintro (hmem | ⟨j, hji, -, -, -, -, -, hj⟩)
    · obtain ⟨j, hji, hj⟩ := mem_take_iff_getElem?.1 hmem
      obtain ⟨n, -, hn, hcolumn⟩ := exists_getElem?_distinctColumns hj
      cases n with
      | zero => exact mem_take_iff_getElem?.2 ⟨j, hji, hcolumn⟩
      | succ n =>
          -- it is numbered because an earlier column has the name
          exact List.take_subset_take_left _ (Nat.le_of_lt hji) (hn.taken_before 0 (Nat.succ_pos n))
    · exact mem_take_iff_getElem?.2 ⟨j, hji, hj⟩

/-- A column keeps its name exactly if no earlier column has it. -/
theorem keeps_name_iff_not_mem {names : List String} {i : Nat} {name : String} (hname : names[i]? = some name) :
    (distinctColumns names)[i]? = some name ↔ name ∉ (distinctColumns names).take i := by
  obtain ⟨n, -, hn, hcolumn⟩ := exists_getElem?_distinctColumns hname
  rw [hcolumn, Option.some.injEq, candidate_eq_self_iff, hn.eq_zero_iff]

theorem one_lt_count_of_mem_take {names : List String} {j : Nat} {name : String} (hname : names[j]? = some name)
    (hearlier : name ∈ names.take j) : 1 < names.count name := by
  have hupto : (names.take (j + 1)).count name ≤ names.count name := (List.take_sublist _ _).count_le _
  have hbefore : 0 < (names.take j).count name := List.count_pos_iff.2 hearlier
  rw [List.take_add_one, hname, List.count_append, Option.toList_some, List.count_singleton_self] at hupto
  omega

/-- If no column has the name of a repeated one with a number after it, every name is kept where it stands for the first
time. -/
theorem keeps_first_of_not_mem {names : List String}
    (h : ∀ name k, 1 < names.count name → 2 ≤ k → numbered name k ∉ names) {i : Nat} {name : String}
    (hname : names[i]? = some name) (hfirst : name ∉ names.take i) : (distinctColumns names)[i]? = some name := by
  induction i using Nat.strong_induction_on generalizing name with
  | _ i ih =>
      rw [keeps_name_iff_not_mem hname, mem_take_distinctColumns_iff]
      rintro (hearlier | ⟨j, hji, other, k, hother, hk, rfl, hcolumn⟩)
      · exact hfirst hearlier
      · by_cases hrepeated : other ∈ names.take j
        · exact h other k (one_lt_count_of_mem_take hother hrepeated) hk (List.mem_of_getElem? hname)
        · -- then the earlier column is itself a first occurrence, which kept its name
          have hkept := ih j hji hother hrepeated
          rw [hcolumn] at hkept
          exact numbered_ne_self other k (Option.some.inj hkept)

/-- A column keeps its name exactly if the name stands there for the first time and no earlier column was given it as a
name with a number. -/
theorem keeps_name_iff {names : List String} {i : Nat} {name : String} (hname : names[i]? = some name) :
    (distinctColumns names)[i]? = some name ↔
      name ∉ names.take i ∧ ∀ j < i, ¬IsNumberedAt names j name := by
  rw [keeps_name_iff_not_mem hname, mem_take_distinctColumns_iff, not_or]
  apply and_congr_right
  intro _
  push Not
  rfl

/-- The first `name` keeps its name. The first `name_2` does not: the second `name` was given it. -/
theorem keeps_name_and_loses_name_2 :
    ["name", "name", "name_2"][0]? = some "name" ∧ ["name", "name", "name_2"][2]? = some "name_2"
      ∧ "name_2" ∉ ["name", "name", "name_2"].take 2
      ∧ (distinctColumns ["name", "name", "name_2"])[0]? = some "name"
      ∧ ¬(distinctColumns ["name", "name", "name_2"])[2]? = some "name_2" := by
  refine ⟨rfl, rfl, by decide, (keeps_name_iff rfl).2 ⟨by decide, by simp⟩, ?_⟩
  intro hkept
  have hgiven : IsNumberedAt ["name", "name", "name_2"] 1 "name_2" := ⟨"name", 2, rfl, by decide, by decide, by decide⟩
  exact ((keeps_name_iff rfl).1 hkept).2 1 (by decide) hgiven

end QueryGate.Guard
