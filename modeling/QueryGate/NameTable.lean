/-!
Tables from names to values in which each name occurs once and the order of declaration is kept.
-/
set_option autoImplicit false

namespace QueryGate

/-- Values under names. The names are distinct and stand in the order in which they were first declared. -/
structure NameTable (α : Type) where
  entries : List (String × α)
  nodup : (entries.map Prod.fst).Nodup

namespace NameTable

variable {α : Type}

/-- A table is determined by its entries. -/
@[ext] theorem ext {s t : NameTable α} (h : s.entries = t.entries) : s = t := by
  cases s; cases t; cases h; rfl

instance [DecidableEq α] : DecidableEq (NameTable α) := fun s t =>
  decidable_of_iff (s.entries = t.entries) ⟨ext, fun h => by rw [h]⟩

/-- The table without names. -/
def empty : NameTable α := ⟨[], List.nodup_nil⟩

/-- Puts a value under a name: a name that is there keeps its position and takes the new value. -/
def assignIn (name : String) (value : α) : List (String × α) → List (String × α)
  | [] => [(name, value)]
  | (n, v) :: rest => if n = name then (n, value) :: rest else (n, v) :: assignIn name value rest

/-- The names afterwards: the same ones, with the new name at the end if it was not there. -/
theorem map_fst_assignIn (name : String) (value : α) (entries : List (String × α)) :
    (assignIn name value entries).map Prod.fst =
      if name ∈ entries.map Prod.fst then entries.map Prod.fst else entries.map Prod.fst ++ [name] := by
  induction entries with
  | nil => simp [assignIn]
  | cons e rest ih =>
    obtain ⟨n, v⟩ := e
    by_cases h : n = name
    · simp [assignIn, h]
    · have h' : ¬ name = n := fun e => h e.symm
      simp only [assignIn, h, if_false, List.map_cons, ih, List.mem_cons, h', false_or]
      split <;> simp

/-- Assigning keeps the names distinct. -/
theorem nodup_assignIn (name : String) (value : α) {entries : List (String × α)}
    (h : (entries.map Prod.fst).Nodup) : ((assignIn name value entries).map Prod.fst).Nodup := by
  rw [map_fst_assignIn]
  split
  · exact h
  · rename_i hn
    refine List.nodup_append.2 ⟨h, by simp, ?_⟩
    intro a ha b hb
    simp only [List.mem_singleton] at hb
    subst hb
    exact fun e => hn (e ▸ ha)

/-- Puts a value under a name. -/
def assign (t : NameTable α) (name : String) (value : α) : NameTable α :=
  ⟨assignIn name value t.entries, nodup_assignIn name value t.nodup⟩

/-- The table of some declarations in their order; of declarations of one name the first gives the position and the
last the value. -/
def ofList (declarations : List (String × α)) : NameTable α :=
  declarations.foldl (fun t d => t.assign d.1 d.2) empty

/-- The value under a name. -/
def get? (t : NameTable α) (name : String) : Option α := t.entries.lookup name

/-- Whether a name is declared. -/
def contains (t : NameTable α) (name : String) : Bool := (t.get? name).isSome

/-- The names in the order of declaration. -/
def names (t : NameTable α) : List String := t.entries.map Prod.fst

/-- Whether nothing is declared. -/
def isEmpty (t : NameTable α) : Bool := t.entries.isEmpty

end NameTable

end QueryGate
