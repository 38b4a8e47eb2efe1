import QueryGate.Plan.Index
import QueryGate.Proofs.NameTable
/-!
Where names lead. Whatever is entered into the index of a contract leads to a canonical name of the contract, so a name
that is found leads to a declared resource.
-/
set_option autoImplicit false

namespace QueryGate.Plan.Index

/-- Every key of an index leads to one of these names. -/
def IsInto (names : List String) (index : Index) : Prop :=
  ∀ key canonical, index.entries.get? key = some canonical → canonical ∈ names

section IsInto

variable {names : List String} {index : Index} {canonical : String}

theorem IsInto.insert (h : IsInto names index) (hc : canonical ∈ names) (key : String) :
    IsInto names (index.insert key canonical) := by
  unfold Index.insert
  split
  · exact h
  · intro name found hfound
    rw [NameTable.get?_assign] at hfound
    by_cases hname : name = key
    · rw [if_pos hname, Option.some.injEq] at hfound
      exact hfound ▸ hc
    · rw [if_neg hname] at hfound
      exact h name found hfound

/-- A name is entered in two forms, which lead to the same resource. -/
theorem IsInto.insertName (h : IsInto names index) (hc : canonical ∈ names) (name : String) :
    IsInto names (insertName canonical index name) :=
  (h.insert hc _).insert hc _

theorem IsInto.insertResource (h : IsInto names index) {resource : String × Contract.ResourceInfo}
    (hc : resource.1 ∈ names) : IsInto names (insertResource index resource) := by
  have hall (entered : List String) (index : Index) (h : IsInto names index) :
      IsInto names (entered.foldl (Index.insertName resource.1) index) := by
    induction entered generalizing index with
    | nil => exact h
    | cons name rest ih =>
        rw [List.foldl_cons]
        exact ih (Index.insertName resource.1 index name) (h.insertName hc name)
  exact hall _ index h

/-- The keys of the index of a contract lead to canonical names of the contract. -/
theorem isInto_ofContract (c : Contract) : IsInto c.resourceNames (ofContract c) := by
  have hall (resources : List (String × Contract.ResourceInfo)) (index : Index)
      (hnames : ∀ r ∈ resources, r.1 ∈ c.resourceNames) (h : IsInto c.resourceNames index) :
      IsInto c.resourceNames (resources.foldl Index.insertResource index) := by
    induction resources generalizing index with
    | nil => exact h
    | cons r rest ih =>
        rw [List.forall_mem_cons] at hnames
        rw [List.foldl_cons]
        exact ih _ hnames.2 (h.insertResource hnames.1)
  refine hall _ ⟨.empty⟩ (fun r hr => List.mem_map_of_mem hr) ?_
  intro key canonical hfound
  cases hfound

end IsInto

/-- A name that is found in the index of a contract leads to a declared resource. -/
theorem exists_resource_of_resolve {c : Contract} {name canonical : String}
    (h : (ofContract c).resolve name = some canonical) : ∃ info, c.resource? canonical = some info := by
  have hinto := isInto_ofContract c
  have hmem : canonical ∈ c.resourceNames := by
    rw [resolve, Option.or_eq_some_iff] at h
    rcases h with h | ⟨-, h⟩
    · exact hinto _ _ h
    · exact hinto _ _ h
  obtain ⟨⟨declared, info⟩, hentry, rfl⟩ := List.mem_map.1 hmem
  exact ⟨info, (c.resources.get?_eq_some_iff_mem declared info).2 hentry⟩

end QueryGate.Plan.Index
