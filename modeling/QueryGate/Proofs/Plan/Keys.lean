import QueryGate.Proofs.Plan.Resolution
/-!
Resolution by what is declared, without an index. A resource has its keys by its own names, the order of declaration
says which resource counts for a key, and a name leads to a resource by its normal form or else by the stem of that. The
index, which is filled name by name with later entries in the place of earlier ones, leads every name to the same.
-/
set_option autoImplicit false

namespace QueryGate.Plan

open Contract (ResourceInfo)

/-! ## What is declared -/

/-- The normal forms of a resource: those of its canonical name, of that with an `s` after it, and of its synonyms. -/
inductive IsNormalForm (resource : String × ResourceInfo) : String → Prop where
  | canonical : IsNormalForm resource (normalize resource.1)
  | plural : IsNormalForm resource (normalize (resource.1 ++ "s"))
  | synonym {name : String} (declared : name ∈ resource.2.synonyms) : IsNormalForm resource (normalize name)

/-- The keys of a resource: its normal forms, and those that end in an `s` also without it, as far as they are not
empty. -/
def IsKey (resource : String × ResourceInfo) (key : String) : Prop :=
  key ≠ "" ∧ ∃ form, IsNormalForm resource form ∧ (form = key ∨ form = key ++ "s")

/-- The last of some resources that has a key. -/
def IsLastWith (key : String) (resources : List (String × ResourceInfo)) (resource : String × ResourceInfo) : Prop :=
  ∃ before after, resources = before ++ resource :: after ∧ IsKey resource key ∧ ∀ later ∈ after, ¬IsKey later key

/-- What a name leads to in a contract: the last resource that has its normal form as a key; if there is none, the last
one that has the normal form without an `s` at its end; and otherwise nothing. -/
inductive ResolvesTo (c : Contract) (name : String) : Option (String × ResourceInfo) → Prop where
  | full {resource : String × ResourceInfo} (last : IsLastWith (normalize name) c.resources.entries resource) :
    ResolvesTo c name (some resource)
  | stem {stem : String} {resource : String × ResourceInfo}
    (unknown : ∀ r ∈ c.resources.entries, ¬IsKey r (normalize name)) (ends : normalize name = stem ++ "s")
    (last : IsLastWith stem c.resources.entries resource) : ResolvesTo c name (some resource)
  | nowhere (unknown : ∀ r ∈ c.resources.entries, ¬IsKey r (normalize name))
    (unknown_stem : ∀ stem, normalize name = stem ++ "s" → ∀ r ∈ c.resources.entries, ¬IsKey r stem) :
    ResolvesTo c name none

/-! ## Stems -/

/-- The stem of a text with an `s` at its end is the text before that. -/
theorem singularize_append (stem : String) : singularize (stem ++ "s") = stem := by
  have hlast : (stem ++ "s").toList = stem.toList ++ ['s'] := String.toList_append
  rw [singularize]
  simp only [hlast, List.getLast?_concat, List.dropLast_concat, if_pos, String.ofList_toList]

/-- A text has an `s` after its stem, or else it is its own stem. -/
theorem singularize_cases (text : String) :
    text = singularize text ++ "s" ∨ singularize text = text ∧ ∀ stem, text ≠ stem ++ "s" := by
  by_cases h : ∃ stem, text = stem ++ "s"
  · obtain ⟨stem, rfl⟩ := h
    exact .inl (by rw [singularize_append])
  · refine .inr ⟨?_, not_exists.1 h⟩
    rw [singularize]
    refine if_neg fun hlast => ?_
    obtain ⟨front, hfront⟩ := List.getLast?_eq_some_iff.1 hlast
    refine h ⟨String.ofList front, String.toList_inj.1 ?_⟩
    rw [hfront, String.toList_append, String.toList_ofList]
    rfl

/-- The keys of a name are its normal form and the stem of that. -/
theorem eq_or_eq_append_iff (form key : String) :
    form = key ∨ form = key ++ "s" ↔ key = singularize form ∨ key = form := by
  constructor
  · rintro (rfl | rfl)
    · exact .inr rfl
    · exact .inl (singularize_append key).symm
  · rintro (rfl | rfl)
    · rcases singularize_cases form with h | ⟨h, -⟩
      · exact .inr h
      · exact .inl h.symm
    · exact .inl rfl

/-! ## Keys -/

open Index

theorem isNormalForm_iff (resource : String × ResourceInfo) (form : String) :
    IsNormalForm resource form ↔ ∃ name ∈ namesOf resource.1 resource.2, form = normalize name := by
  constructor
  · rintro (_ | _ | ⟨hdeclared⟩)
    · exact ⟨resource.1, by simp [namesOf], rfl⟩
    · exact ⟨resource.1 ++ "s", by simp [namesOf], rfl⟩
    · exact ⟨_, by simp [namesOf, hdeclared], rfl⟩
  · rintro ⟨name, hname, rfl⟩
    simp only [namesOf, List.cons_append, List.mem_cons, List.mem_append, List.not_mem_nil, or_false] at hname
    rcases hname with rfl | hdeclared | rfl
    · exact .canonical
    · exact .synonym hdeclared
    · exact .plural

/-- The keys of a resource are those under which it is entered into the index. -/
theorem isKey_iff (resource : String × ResourceInfo) (key : String) : IsKey resource key ↔ key ∈ keysOf resource := by
  simp only [IsKey, keysOf, List.mem_flatMap, mem_keysOfName_iff, isNormalForm_iff, eq_or_eq_append_iff]
  constructor
  · rintro ⟨hkey, _, ⟨name, hname, rfl⟩, hform⟩
    exact ⟨name, hname, hkey, hform⟩
  · rintro ⟨name, hname, hkey, hform⟩
    exact ⟨hkey, _, ⟨name, hname, rfl⟩, hform⟩

theorem lastWith_eq_none_iff_isKey (key : String) (resources : List (String × ResourceInfo)) :
    lastWith key resources = none ↔ ∀ r ∈ resources, ¬IsKey r key := by
  simp only [lastWith_eq_none_iff, isKey_iff]

/-- What is entered last under a key is the last resource that has it. -/
theorem lastWith_eq_some_iff (key : String) (resources : List (String × ResourceInfo))
    (resource : String × ResourceInfo) :
    lastWith key resources = some resource ↔ IsLastWith key resources resource := by
  constructor
  · -- the last resource decides, so the induction is on the resources from their end
    induction resources using List.reverseRecOn with
    | nil => exact nofun
    | append_singleton resources r ih =>
        intro hlast
        rw [lastWith_append, lastWith_singleton] at hlast
        by_cases hr : key ∈ keysOf r
        · rw [if_pos hr, Option.some_or, Option.some.injEq] at hlast
          subst hlast
          exact ⟨resources, [], rfl, (isKey_iff _ _).2 hr, nofun⟩
        · rw [if_neg hr, Option.none_or] at hlast
          obtain ⟨before, after, rfl, hkey, hafter⟩ := ih hlast
          refine ⟨before, after ++ [r], by simp, hkey, ?_⟩
          rw [List.forall_mem_append, List.forall_mem_singleton, isKey_iff r]
          exact ⟨hafter, hr⟩
  · rintro ⟨before, after, rfl, hkey, hafter⟩
    rw [lastWith_append_cons ((isKey_iff _ _).1 hkey), (lastWith_eq_none_iff_isKey _ _).2 hafter, Option.getD_none]

/-! ## Resolution -/

/-- What a name leads to is what was entered last under its normal form, or else under the stem of that. -/
theorem resolvesTo_iff (c : Contract) (name : String) (found : Option (String × ResourceInfo)) :
    ResolvesTo c name found ↔
      (lastWith (normalize name) c.resources.entries).or
        (lastWith (singularize (normalize name)) c.resources.entries) = found := by
  constructor
  · rintro (⟨hlast⟩ | ⟨hunknown, hends, hlast⟩ | ⟨hunknown, hstem⟩)
    · rw [(lastWith_eq_some_iff ..).2 hlast, Option.some_or]
    · rw [(lastWith_eq_none_iff_isKey ..).2 hunknown, Option.none_or, hends, singularize_append,
        (lastWith_eq_some_iff ..).2 hlast]
    · rw [(lastWith_eq_none_iff_isKey ..).2 hunknown, Option.none_or, lastWith_eq_none_iff_isKey]
      rcases singularize_cases (normalize name) with hends | ⟨hsame, -⟩
      · exact hstem _ hends
      · rwa [hsame]
  · rintro rfl
    cases hfull : lastWith (normalize name) c.resources.entries with
    | some r => exact .full ((lastWith_eq_some_iff ..).1 hfull)
    | none =>
        have hunknown := (lastWith_eq_none_iff_isKey ..).1 hfull
        rw [Option.none_or]
        rcases singularize_cases (normalize name) with hends | ⟨hsame, hnot⟩
        · cases hlast : lastWith (singularize (normalize name)) c.resources.entries with
          | some r => exact .stem hunknown hends ((lastWith_eq_some_iff ..).1 hlast)
          | none =>
              refine .nowhere hunknown fun stem hstem => ?_
              -- the stem of a text is determined by it
              rw [hstem, singularize_append] at hlast
              exact (lastWith_eq_none_iff_isKey ..).1 hlast
        · rw [hsame, hfull]
          exact .nowhere hunknown fun stem hstem => absurd hstem (hnot stem)

/-- A name leads to what is declared for it: the index to the canonical name of that resource, the catalog to the
resource, and both nowhere if there is none, as for a name whose normal form is empty. The index leads to canonical names
of the contract only. -/
theorem resolve_eq_iff_resolvesTo (c : Contract) (name : String) :
    (∀ canonical, (Index.ofContract c).resolve name = some canonical ↔
        ∃ info, ResolvesTo c name (some (canonical, info)))
      ∧ ((Index.ofContract c).resolve name = none ↔ ResolvesTo c name none)
      ∧ (∀ resource, (Catalog.ofContract c).resolve name = .ok resource ↔ ResolvesTo c name (some resource))
      ∧ ((Catalog.ofContract c).resolve name = .error (.resourceNotAllowed name c.resourceNames) ↔
          ResolvesTo c name none)
      ∧ (normalize name = "" → (Index.ofContract c).resolve name = none)
      ∧ ∀ canonical, (Index.ofContract c).resolve name = some canonical → canonical ∈ c.resourceNames := by
  simp only [Index.resolve_ofContract, Catalog.resolve_ofContract, resolvesTo_iff]
  refine ⟨?_, ?_, ?_, ?_, ?_, ?_⟩
  · intro canonical
    simp only [Option.map_eq_some_iff, Prod.exists, exists_and_right, exists_eq_right]
  · exact Option.map_eq_none_iff
  · intro resource
    generalize (lastWith (normalize name) c.resources.entries).or _ = found
    cases found with
    | none => simp
    | some r => simp
  · generalize (lastWith (normalize name) c.resources.entries).or _ = found
    cases found with
    | none => simp
    | some r => simp
  · intro hblank
    have hstem : singularize "" = "" := rfl
    rw [hblank, hstem, lastWith_blank]
    rfl
  · intro canonical hfound
    rw [← Index.resolve_ofContract] at hfound
    obtain ⟨info, hdeclared⟩ := exists_resource_of_resolve hfound
    exact List.mem_map_of_mem ((c.resources.get?_eq_some_iff_mem canonical info).1 hdeclared)

/-- In the shop the normal form of "BOOKS" is a key of the first two resources, and the later one counts; that of
"Booksss" is no key, but its stem is one of the first resource; and of the last name there nothing is left to be looked
up. -/
theorem resolvesTo_shop :
    ResolvesTo Shop.contract "BOOKS" (some (Shop.resource "Book" "books"))
      ∧ ResolvesTo Shop.contract "Booksss" (some (Shop.resource "Books" "collections"))
      ∧ ResolvesTo Shop.contract "本" none ∧ (Index.ofContract Shop.contract).resolve "本" = none := by
  refine ⟨?_, ?_, ?_, ?_⟩
  · exact ((resolve_eq_iff_resolvesTo Shop.contract "BOOKS").2.2.1 _).1 rfl
  · exact ((resolve_eq_iff_resolvesTo Shop.contract "Booksss").2.2.1 _).1 rfl
  · exact (resolve_eq_iff_resolvesTo Shop.contract "本").2.1.1 rfl
  · exact (resolve_eq_iff_resolvesTo Shop.contract "本").2.2.2.2.1 rfl

end QueryGate.Plan
