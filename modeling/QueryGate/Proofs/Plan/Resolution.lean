import Mathlib.Data.List.Induction
import QueryGate.Proofs.Contract.Consistency
import QueryGate.Proofs.Plan.Index
import QueryGate.Proofs.Plan.Validation
/-!
Which resource a name leads to. A resource has keys: the normal forms of its names, each also without an `s` at its end.
Entering resources one after the other leaves every key with the resource that was declared last among those that have
it, so a name leads to the last resource that has its normal form as a key.

For canonical names this means that a declared resource is found under its own name unless its name leaves nothing to be
looked up or a later resource has taken its key. The check of a contract excludes neither.
-/
set_option autoImplicit false

namespace QueryGate.Plan

open Contract (ResourceInfo)

namespace Index

/-! ## Keys -/

/-- The keys of a name: its normal form, and that without one `s` at its end. Nothing is found under a blank key. -/
def keysOfName (name : String) : List String := [singularize (normalize name), normalize name].filter (· ≠ "")

theorem mem_keysOfName_iff (name key : String) :
    key ∈ keysOfName name ↔ key ≠ "" ∧ (key = singularize (normalize name) ∨ key = normalize name) := by
  rw [keysOfName, List.mem_filter]
  simp only [List.mem_cons, List.not_mem_nil, or_false, decide_eq_true_eq]
  exact and_comm

/-- The keys of a resource are those of its canonical name, of its synonyms and of its plural. -/
def keysOf (resource : String × ResourceInfo) : List String :=
  (namesOf resource.1 resource.2).flatMap keysOfName

theorem ne_blank_of_mem_keysOf {resource : String × ResourceInfo} {key : String} (h : key ∈ keysOf resource) :
    key ≠ "" := by
  obtain ⟨name, -, hkey⟩ := List.mem_flatMap.1 h
  exact ((mem_keysOfName_iff name key).1 hkey).1

/-- The normal form of its canonical name is a key of a resource, unless it is blank. -/
theorem normalize_mem_keysOf_iff (name : String) (info : ResourceInfo) :
    normalize name ∈ keysOf (name, info) ↔ normalize name ≠ "" :=
  ⟨ne_blank_of_mem_keysOf, fun h =>
    List.mem_flatMap.2 ⟨name, List.mem_cons_self, (mem_keysOfName_iff name _).2 ⟨h, .inr rfl⟩⟩⟩

/-- The last of some resources that has a key. -/
def lastWith (key : String) (resources : List (String × ResourceInfo)) : Option (String × ResourceInfo) :=
  (resources.filter fun r => key ∈ keysOf r).getLast?

@[simp] theorem lastWith_nil (key : String) : lastWith key [] = none := rfl

theorem lastWith_append (key : String) (resources later : List (String × ResourceInfo)) :
    lastWith key (resources ++ later) = (lastWith key later).or (lastWith key resources) := by
  rw [lastWith, List.filter_append, List.getLast?_append]
  rfl

theorem lastWith_singleton (key : String) (r : String × ResourceInfo) :
    lastWith key [r] = if key ∈ keysOf r then some r else none := by
  by_cases h : key ∈ keysOf r
  · simp [lastWith, h]
  · simp [lastWith, h]

theorem lastWith_eq_none_iff (key : String) (resources : List (String × ResourceInfo)) :
    lastWith key resources = none ↔ ∀ r ∈ resources, key ∉ keysOf r := by
  simp [lastWith]

theorem mem_of_lastWith_eq_some {key : String} {resources : List (String × ResourceInfo)}
    {r : String × ResourceInfo} (h : lastWith key resources = some r) : r ∈ resources ∧ key ∈ keysOf r := by
  have hmem := List.mem_of_getLast? h
  rw [List.mem_filter, decide_eq_true_eq] at hmem
  exact hmem

/-- No resource has the blank key. -/
theorem lastWith_blank (resources : List (String × ResourceInfo)) : lastWith "" resources = none :=
  (lastWith_eq_none_iff _ _).2 fun _ _ hmem => ne_blank_of_mem_keysOf hmem rfl

/-- Where a resource has a key, it is the last that has it, or a later one is. -/
theorem lastWith_append_cons {key : String} {r : String × ResourceInfo} (h : key ∈ keysOf r)
    (before after : List (String × ResourceInfo)) :
    lastWith key (before ++ r :: after) = some ((lastWith key after).getD r) := by
  rw [lastWith_append, ← List.singleton_append, lastWith_append, lastWith_singleton, if_pos h]
  cases lastWith key after with
  | none => rfl
  | some found => rfl

/-! ## The index -/

/-- Entering a key changes where it leads and nothing else; a blank key is not entered. -/
theorem get?_insert (index : Index) (entered canonical key : String) :
    (index.insert entered canonical).entries.get? key =
      if key ≠ "" ∧ key = entered then some canonical else index.entries.get? key := by
  unfold insert
  by_cases hblank : entered = ""
  · rw [if_pos hblank, if_neg fun h => h.1 (h.2.trans hblank)]
  · rw [if_neg hblank, NameTable.get?_assign]
    by_cases hkey : key = entered
    · rw [if_pos hkey, if_pos ⟨hkey ▸ hblank, hkey⟩]
    · rw [if_neg hkey, if_neg fun h => hkey h.2]

/-- Entering a name makes its keys lead to the resource. -/
theorem get?_insertName (canonical : String) (index : Index) (name key : String) :
    (insertName canonical index name).entries.get? key =
      if key ∈ keysOfName name then some canonical else index.entries.get? key := by
  simp only [insertName, get?_insert, mem_keysOfName_iff]
  by_cases hkey : key ≠ "" ∧ key = normalize name
  · rw [if_pos hkey, if_pos ⟨hkey.1, .inr hkey.2⟩]
  · rw [if_neg hkey]
    refine if_congr ?_ rfl rfl
    rw [and_or_left, or_iff_left hkey]

/-- Entering some names of one resource makes the keys of all of them lead to it. -/
theorem get?_foldl_insertName (canonical : String) (names : List String) (index : Index) (key : String) :
    (names.foldl (insertName canonical) index).entries.get? key =
      if key ∈ names.flatMap keysOfName then some canonical else index.entries.get? key := by
  induction names generalizing index with
  | nil => rfl
  | cons name rest ih =>
      rw [List.foldl_cons, ih, get?_insertName, List.flatMap_cons]
      by_cases hrest : key ∈ rest.flatMap keysOfName
      · rw [if_pos hrest, if_pos (List.mem_append_right _ hrest)]
      · rw [if_neg hrest]
        refine if_congr ?_ rfl rfl
        rw [List.mem_append, or_iff_left hrest]

/-- Entering a resource makes its keys lead to it. -/
theorem get?_insertResource (index : Index) (r : String × ResourceInfo) (key : String) :
    (insertResource index r).entries.get? key = if key ∈ keysOf r then some r.1 else index.entries.get? key :=
  get?_foldl_insertName r.1 (namesOf r.1 r.2) index key

/-- In the index of a contract a key leads to the resource that was declared last among those that have it. -/
theorem get?_ofContract (c : Contract) (key : String) :
    (ofContract c).entries.get? key = (lastWith key c.resources.entries).map Prod.fst := by
  have hall (resources : List (String × ResourceInfo)) :
      (resources.foldl insertResource ⟨.empty⟩).entries.get? key = (lastWith key resources).map Prod.fst := by
    -- the resource that was entered last decides, so the induction is on the resources from their end
    induction resources using List.reverseRecOn with
    | nil => rfl
    | append_singleton resources r ih =>
        rw [List.foldl_append, List.foldl_cons, List.foldl_nil, get?_insertResource, lastWith_append,
          lastWith_singleton, ih]
        by_cases h : key ∈ keysOf r
        · rw [if_pos h, if_pos h, Option.some_or, Option.map_some]
        · rw [if_neg h, if_neg h, Option.none_or]
  exact hall c.resources.entries

end Index

open Index

/-! ## Resolution -/

/-- The index leads from a name to the last resource that has its normal form as a key, or else to the last one that has
it without one `s` at its end. -/
theorem Index.resolve_ofContract (c : Contract) (name : String) :
    (ofContract c).resolve name =
      ((lastWith (normalize name) c.resources.entries).or
        (lastWith (singularize (normalize name)) c.resources.entries)).map Prod.fst := by
  rw [resolve, get?_ofContract, get?_ofContract, Option.map_or]

/-- A name leads to the last resource that has its normal form as a key, or else to the last one that has it without one
`s` at its end, or else nowhere. -/
theorem Catalog.resolve_ofContract (c : Contract) (name : String) :
    (Catalog.ofContract c).resolve name =
      match (lastWith (normalize name) c.resources.entries).or
        (lastWith (singularize (normalize name)) c.resources.entries) with
      | some r => .ok r
      | none => .error (.resourceNotAllowed name c.resourceNames) := by
  have hindex : (Catalog.ofContract c).index.resolve name = _ := Index.resolve_ofContract c name
  cases hlast : (lastWith (normalize name) c.resources.entries).or
      (lastWith (singularize (normalize name)) c.resources.entries) with
  | none =>
      rw [hlast] at hindex
      unfold Catalog.resolve
      simp only [hindex, Option.map_none, Option.bind_none]
      rfl
  | some r =>
      rw [hlast] at hindex
      -- the catalog looks the canonical name up again, and names are distinct
      have hmem : r ∈ c.resources.entries := by
        rcases Option.or_eq_some_iff.1 hlast with h | ⟨-, h⟩
        · exact (mem_of_lastWith_eq_some h).1
        · exact (mem_of_lastWith_eq_some h).1
      exact (Catalog.resolve_eq_ok_iff _ name r.1 r.2).2
        ⟨hindex, (c.resources.get?_eq_some_iff_mem r.1 r.2).2 hmem⟩

/-- A blank name leads nowhere. -/
theorem Catalog.resolve_eq_error_of_blank (c : Contract) {name : String} (h : normalize name = "") :
    (Catalog.ofContract c).resolve name = .error (.resourceNotAllowed name c.resourceNames) := by
  have hsingular : singularize "" = "" := rfl
  rw [resolve_ofContract, h, hsingular, lastWith_blank]
  rfl

/-- Its canonical name leads to a resource unless a later one has the key; then it leads to the last that has it. -/
theorem Catalog.resolve_canonical (c : Contract) {before after : List (String × ResourceInfo)}
    {r : String × ResourceInfo} (hentries : c.resources.entries = before ++ r :: after) (h : normalize r.1 ≠ "") :
    (Catalog.ofContract c).resolve r.1 = .ok ((lastWith (normalize r.1) after).getD r) := by
  have hkey : normalize r.1 ∈ keysOf r := (normalize_mem_keysOf_iff r.1 r.2).2 h
  rw [resolve_ofContract, hentries, lastWith_append_cons hkey]
  rfl

/-! ## Resources under their own names -/

/-- A declared resource is found under its canonical name exactly if the normal form of the name is not blank and no
resource that is declared later has it as a key. If it is blank the name is refused; if later resources have the key the
name leads to the last of them. -/
theorem resolve_canonical_eq_ok_iff (c : Contract) (before after : List (String × ResourceInfo)) (name : String)
    (info : ResourceInfo) (hentries : c.resources.entries = before ++ (name, info) :: after) :
    ((Catalog.ofContract c).resolve name = .ok (name, info) ↔
        normalize name ≠ "" ∧ ∀ r ∈ after, normalize name ∉ keysOf r)
      ∧ (normalize name = "" → (Catalog.ofContract c).resolve name = .error (.resourceNotAllowed name c.resourceNames))
      ∧ ∀ between later rest, after = between ++ later :: rest → normalize name ∈ keysOf later →
          (∀ r ∈ rest, normalize name ∉ keysOf r) → (Catalog.ofContract c).resolve name = .ok later := by
  have hfound (h : normalize name ≠ "") := Catalog.resolve_canonical c hentries h
  refine ⟨⟨?_, ?_⟩, Catalog.resolve_eq_error_of_blank c, ?_⟩
  · intro hown
    by_cases h : normalize name = ""
    · rw [Catalog.resolve_eq_error_of_blank c h] at hown
      cases hown
    · refine ⟨h, (lastWith_eq_none_iff _ _).1 ?_⟩
      rw [hfound h, Except.ok.injEq] at hown
      cases hlast : lastWith (normalize name) after with
      | none => rfl
      | some later =>
          -- a later resource has another name
          rw [hlast, Option.getD_some] at hown
          have hmem : (name, info) ∈ after := hown ▸ (mem_of_lastWith_eq_some hlast).1
          have hnodup := c.resources.nodup
          rw [hentries, List.map_append, List.map_cons, List.nodup_append, List.nodup_cons] at hnodup
          exact absurd (List.mem_map_of_mem hmem) hnodup.2.1.1
  · rintro ⟨h, hafter⟩
    rw [hfound h, (lastWith_eq_none_iff _ _).2 hafter, Option.getD_none]
  · rintro between later rest rfl hkey hrest
    rw [hfound (ne_blank_of_mem_keysOf hkey), lastWith_append, ← List.singleton_append, lastWith_append,
      (lastWith_eq_none_iff _ _).2 hrest, lastWith_singleton, if_pos hkey, Option.none_or, Option.some_or,
      Option.getD_some]

namespace Shop

/-- A resource of the shop. All of them have the fields of shelves. -/
def resource (name view : String) : String × ResourceInfo := (name, { Contract.Library.shelf with view })

/-- A contract of a shop for books. The plural of its second name is the first, and normal forms do not keep the letter
of the third. -/
def contract : Contract := ⟨.ofList [resource "Books" "collections", resource "Book" "books", resource "本" "volumes"]⟩

end Shop

/-- In the library a book is found under its name. In the shop the first name leads to the second resource, and the
third leads nowhere. -/
theorem resolve_library_and_shop :
    (Catalog.ofContract Contract.Library.contract).resolve "Book" = .ok ("Book", Contract.Library.book)
      ∧ (Catalog.ofContract Shop.contract).resolve "Books" = .ok (Shop.resource "Book" "books")
      ∧ (Catalog.ofContract Shop.contract).resolve "本" =
          .error (.resourceNotAllowed "本" ["Books", "Book", "本"]) := by
  refine ⟨?_, ?_, ?_⟩
  · refine (resolve_canonical_eq_ok_iff Contract.Library.contract [] [("Shelf", Contract.Library.shelf)] "Book"
      Contract.Library.book rfl).1.2 ⟨by decide, ?_⟩
    rw [List.forall_mem_singleton]
    decide
  · refine (resolve_canonical_eq_ok_iff Shop.contract [] [Shop.resource "Book" "books", Shop.resource "本" "volumes"]
      "Books" _ rfl).2.2 [] (Shop.resource "Book" "books") [Shop.resource "本" "volumes"] rfl (by decide) ?_
    rw [List.forall_mem_singleton]
    decide
  · exact (resolve_canonical_eq_ok_iff Shop.contract [Shop.resource "Books" "collections", Shop.resource "Book" "books"]
      [] "本" _ rfl).2.1 rfl

/-- The contract of the shop passes its check, and yet of its declared names one leads to another resource and one
leads nowhere. -/
theorem check_shop :
    Contract.check Shop.contract = .ok ()
      ∧ Shop.contract.resource? "Books" = some (Shop.resource "Books" "collections").2
      ∧ (Catalog.ofContract Shop.contract).resolve "Books" = .ok (Shop.resource "Book" "books")
      ∧ Shop.contract.resource? "本" = some (Shop.resource "本" "volumes").2
      ∧ (Catalog.ofContract Shop.contract).resolve "本" = .error (.resourceNotAllowed "本" ["Books", "Book", "本"]) :=
  ⟨rfl, rfl, rfl, rfl, rfl⟩

end QueryGate.Plan
