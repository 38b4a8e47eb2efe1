import QueryGate.Json.Shape
import QueryGate.Proofs.Json.Written
/-!
Shapes and the trees that are written for their values. A shape reads a tree back if it reads every document that shows
the tree as the value that the tree was written for. A record reads back the members of its fields in any order; the
fields that are not written keep what its empty draft gives them.
-/
set_option autoImplicit false

namespace QueryGate.Json

namespace Shape

/-- With more than so many levels left a shape reads every document that shows a tree as this value. -/
structure ReadsBack {α : Type} (shape : Shape α) (levels : Nat) (a : α) (t : Tree) : Prop where
  whole : t.IsWhole
  read : ∀ depth d, levels < depth → d.Shows t → shape depth d = .ok a

section Values

variable {α : Type} {shape : Shape α} {levels : Nat} {a : α} {t : Tree}

/-- What is read back with some levels is read back with more. -/
theorem ReadsBack.mono (h : shape.ReadsBack levels a t) {more : Nat} (hle : levels ≤ more) :
    shape.ReadsBack more a t :=
  ⟨h.whole, fun depth d hdepth hd => h.read depth d (Nat.lt_of_le_of_lt hle hdepth) hd⟩

theorem readsBack_text (levels : Nat) (s : String) : text.ReadsBack levels s (.string s) where
  whole := .string s
  read := by
    rintro depth d - ⟨⟩
    rfl

theorem readsBack_truth (levels : Nat) (b : Bool) : truth.ReadsBack levels b (.boolean b) where
  whole := .boolean b
  read := by
    rintro depth d - ⟨⟩
    rfl

theorem readsBack_word32 (levels : Nat) (n : UInt32) : word32.ReadsBack levels n (.number (.natural n.toNat)) where
  whole := .natural (Nat.lt_trans n.toNat_lt_size (by decide))
  read := by
    rintro depth d - ⟨⟩
    simp [word32, wholeNumber, n.toNat_lt_size, Except.map]

theorem readsBack_word64 (levels : Nat) (n : UInt64) : word64.ReadsBack levels n (.number (.natural n.toNat)) where
  whole := .natural n.toNat_lt_size
  read := by
    rintro depth d - ⟨⟩
    simp [word64, wholeNumber, n.toNat_lt_size, Except.map]

theorem readsBack_optional_none (shape : Shape α) (levels : Nat) : (optional shape).ReadsBack levels none .null where
  whole := .null
  read := by
    rintro depth d - ⟨⟩
    rfl

theorem ReadsBack.optional_some (h : shape.ReadsBack levels a t) (ht : t ≠ .null) :
    (optional shape).ReadsBack levels (some a) t where
  whole := h.whole
  read := by
    intro depth d hdepth hd
    have hread := h.read depth d hdepth hd
    cases hd with
    -- only a null would be taken for a missing value
    | null => exact absurd rfl ht
    | _ => exact congrArg (Except.map some) hread

/-- One of a few named values is read back from its name. -/
theorem readsBack_choice {known : List (String × α)} (listing : String) (levels : Nat) {name : String}
    (h : known.lookup name = some a) : (choice known listing).ReadsBack levels a (.string name) where
  whole := .string name
  read := by
    rintro depth d - ⟨⟩
    simp only [choice, choose, h]
    rfl

end Values

/-! ## Lists and maps -/

section Lists

variable {α : Type} {shape : Shape α} {levels : Nat} {tree : α → Tree}

/-- The items of a list are read back one by one. -/
theorem items_eq_of_shows {values : List α} (h : ∀ a ∈ values, shape.ReadsBack levels a (tree a)) {depth : Nat}
    (hdepth : levels < depth) {is : Items} (his : is.Shows (values.map tree)) : items shape depth is = .ok values := by
  -- along the values, and with them along the items that show their trees
  induction values generalizing is with
  | nil =>
      cases his
      rfl
  | cons a values ih =>
      rw [List.forall_mem_cons] at h
      cases his with
      | item settled item_shows rest_shows =>
          rw [items, h.1.read depth _ hdepth item_shows, ih h.2 rest_shows]
          rfl

theorem readsBack_listOf {values : List α} (h : ∀ a ∈ values, shape.ReadsBack levels a (tree a)) :
    (listOf shape).ReadsBack (levels + 1) values (.list (values.map tree)) where
  whole := .list (List.forall_mem_map.2 fun a ha => (h a ha).whole)
  read := by
    intro depth d hdepth hd
    cases hd with
    | list start items_show =>
        -- a list takes up one level
        have hopen : ¬depth ≤ 1 := by omega
        have hitems := items_eq_of_shows h (by omega : levels < depth - 1) items_show
        simp only [listOf, if_neg hopen, hitems]
        rfl

/-- The members of a map are read back one by one. -/
theorem members_eq_of_shows {entries : List (String × α)} (h : ∀ e ∈ entries, shape.ReadsBack levels e.2 (tree e.2))
    {depth : Nat} (hdepth : levels < depth) {ms : Members} (hms : ms.Shows (entries.map fun e => (e.1, tree e.2))) :
    members shape depth ms = .ok entries := by
  induction entries generalizing ms with
  | nil =>
      cases hms
      rfl
  | cons e entries ih =>
      rw [List.forall_mem_cons] at h
      cases hms with
      | member _ _ _ settled member_shows rest_shows =>
          rw [members]
          simp only [h.1.read depth _ hdepth member_shows, ih h.2 rest_shows]
          rfl

theorem readsBack_mapOf {entries : List (String × α)} (h : ∀ e ∈ entries, shape.ReadsBack levels e.2 (tree e.2)) :
    (mapOf shape).ReadsBack (levels + 1) entries (.object (entries.map fun e => (e.1, tree e.2))) where
  whole := .object (List.forall_mem_map.2 fun e he => (h e he).whole)
  read := by
    intro depth d hdepth hd
    cases hd with
    | object start members_show =>
        have hopen : ¬depth ≤ 1 := by omega
        have hmembers := members_eq_of_shows h (by omega : levels < depth - 1) members_show
        simp only [mapOf, if_neg hopen, hmembers]
        rfl

end Lists

/-! ## Records -/

/-- The members that are written for the fields of a record fill one draft up to another: each is of a field that is not
set yet, and is read back as what the field is set to. -/
inductive Fills {σ ρ : Type} (r : Record σ ρ) (levels : Nat) : σ → List (String × Tree) → σ → Prop where
  | done (draft : σ) : Fills r levels draft [] draft
  | field {α : Type} {name : String} {get : σ → Option α} {set : σ → α → σ} {shape : Shape α} {draft filled : σ} {a : α}
    {t : Tree} {ms : List (String × Tree)}
    (known : r.fields.find? (fun f => f.name = name) = some (Shape.field name get set shape))
    (unset : get draft = none) (reads : shape.ReadsBack levels a t) (rest : Fills r levels (set draft a) ms filled) :
    Fills r levels draft ((name, t) :: ms) filled

section Records

variable {σ ρ : Type} {r : Record σ ρ} {levels : Nat} {draft filled : σ} {ms : List (String × Tree)}

theorem Fills.whole (h : Fills r levels draft ms filled) : ∀ m ∈ ms, m.2.IsWhole := by
  induction h with
  | done _ => exact List.forall_mem_nil _
  | field _ _ reads _ ih => exact List.forall_mem_cons.2 ⟨reads.whole, ih⟩

/-- Members that fill a draft are read as it. -/
theorem Fills.recordMembers_eq (h : Fills r levels draft ms filled) {depth : Nat} (hdepth : levels < depth) {a : ρ}
    (hfinish : r.finish filled = .ok a) {members : Members} (hmembers : members.Shows ms) :
    recordMembers r depth draft members = .ok a := by
  -- on the filling: every member sets one field, and what has been set is the draft for the next
  induction h generalizing members with
  | done draft =>
      cases hmembers with
      | close finish =>
          rw [recordMembers, hfinish]
          rfl
  | @field _ name get set shape draft _ a' t ms known unset reads rest ih =>
      cases hmembers with
      | member _ _ _ settled member_shows rest_shows =>
          have hread := reads.read depth _ hdepth member_shows
          rw [← ih hfinish rest_shows, recordMembers]
          simp [known, Shape.field, unset, hread, Except.map]

/-- A record is read back from the members that fill its draft. -/
theorem Fills.readsBack (h : Fills r levels r.empty ms filled) {a : ρ} (hfinish : r.finish filled = .ok a) :
    (record r).ReadsBack (levels + 1) a (.object ms) where
  whole := .object h.whole
  read := by
    intro depth d hdepth hd
    cases hd with
    | object start members_show =>
        have hopen : ¬depth ≤ 1 := by omega
        have hmembers := h.recordMembers_eq (by omega : levels < depth - 1) hfinish members_show
        simp only [record, if_neg hopen, hmembers]
        rfl

end Records

/-! ## Whole texts -/

/-- A value of a shape is read back from the text of its tree as a file. -/
theorem ReadsBack.readText_eq {α : Type} {shape : Shape α} {levels : Nat} {a : α} {t : Tree}
    (h : shape.ReadsBack levels a t) (hlevels : levels < depthLimit) : shape.readText (t.pretty ++ "\n") = .ok a := by
  obtain ⟨d, hsource, hshows⟩ := h.whole.exists_ofText
  rw [readText, hsource]
  simp only [h.read depthLimit d hlevels hshows]
  rfl

end Shape

end QueryGate.Json
