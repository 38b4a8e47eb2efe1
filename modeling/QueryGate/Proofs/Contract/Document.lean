import QueryGate.Contract.Document
import QueryGate.Proofs.Json.Shape
import QueryGate.Proofs.NameTable
/-!
Contracts are read back from the trees that are written for them. What is left out of a tree is what reading puts in for
it: no description, no synonyms, no relations.
-/
set_option autoImplicit false

namespace QueryGate.Contract

open Json

/-- A member that is written only if there is a value for it sets its field to that value, if there is one. -/
theorem fills_optionalMember {σ ρ α β : Type} {r : Shape.Record σ ρ} {levels : Nat} {name : String}
    {get : σ → Option α} {set : σ → α → σ} {shape : Shape α} {filled : σ} {o : Option β} {value : β → α}
    {tree : β → Tree} {ms : List (String × Tree)} (put : Option α → σ)
    (known : r.fields.find? (fun f => f.name = name) = some (Shape.field name get set shape))
    (unset : get (put none) = none) (puts : ∀ a, set (put none) a = put (some a))
    (reads : ∀ b, shape.ReadsBack levels (value b) (tree b))
    (rest : Shape.Fills r levels (put (o.map value)) ms filled) :
    Shape.Fills r levels (put none) (optionalMember name (o.map tree) ++ ms) filled := by
  cases o with
  | none => exact rest
  | some b => exact .field known unset (reads b) (puts (value b) ▸ rest)

/-- A description that is there is written as its text. -/
theorem readsBack_description (levels : Nat) (text : String) :
    (Shape.optional Shape.text).ReadsBack levels (some text) (.string text) :=
  (Shape.readsBack_text levels text).optional_some (by simp)

theorem readsBack_textList (texts : List String) : (Shape.listOf Shape.text).ReadsBack 1 texts (textList texts) :=
  Shape.readsBack_listOf fun text _ => Shape.readsBack_text 0 text

theorem FieldInfo.readsBack (f : FieldInfo) : fieldShape.ReadsBack 1 f f.toTree := by
  obtain ⟨type, description⟩ := f
  have htype : fieldTypeShape.ReadsBack 0 type (.string type.word) :=
    Shape.readsBack_choice _ 0 (by cases type <;> rfl)
  have hdescription := readsBack_description 0
  cases description with
  | none => exact Shape.Fills.readsBack (.field rfl rfl htype (.done _)) rfl
  | some text =>
      exact Shape.Fills.readsBack (.field rfl rfl htype (.field rfl rfl (hdescription text) (.done _))) rfl

theorem RelationInfo.readsBack (r : RelationInfo) : relationShape.ReadsBack 1 r r.toTree := by
  obtain ⟨kind, localField, targetResource, targetField, tableAlias⟩ := r
  have hkind : joinKindShape.ReadsBack 0 kind (.string kind.word) :=
    Shape.readsBack_choice _ 0 (by cases kind <;> rfl)
  have htext := Shape.readsBack_text 0
  exact Shape.Fills.readsBack
    (.field rfl rfl hkind (.field rfl rfl (htext localField) (.field rfl rfl (htext targetResource)
      (.field rfl rfl (htext targetField) (.field rfl rfl (htext tableAlias) (.done _)))))) rfl

/-- What is written unless there is nothing to write is something, written. -/
theorem ite_none_map {α β : Type} (nothing : Prop) [Decidable nothing] (a : α) (f : α → β) :
    (if nothing then none else some (f a)) = (if nothing then none else some a).map f := by
  by_cases h : nothing
  · rw [if_pos h, if_pos h, Option.map_none]
  · rw [if_neg h, if_neg h, Option.map_some]

/-- A list that is left out is empty. -/
theorem getD_ite_isEmpty {α : Type} (l : List α) : (if l.isEmpty then none else some l).getD [] = l := by
  cases l <;> rfl

/-- The document of a map. -/
def mapTree {α : Type} (tree : α → Tree) (entries : List (String × α)) : Tree :=
  .object (entries.map fun e => (e.1, tree e.2))

theorem readsBack_fields (entries : List (String × FieldInfo)) :
    (Shape.mapOf fieldShape).ReadsBack 2 entries (mapTree FieldInfo.toTree entries) :=
  Shape.readsBack_mapOf fun e _ => e.2.readsBack

theorem readsBack_relations (entries : List (String × RelationInfo)) :
    (Shape.mapOf relationShape).ReadsBack 2 entries (mapTree RelationInfo.toTree entries) :=
  Shape.readsBack_mapOf fun e _ => e.2.readsBack

/-- The document of a resource, its members from the first to the last. -/
theorem ResourceInfo.toTree_eq (r : ResourceInfo) :
    r.toTree = .object (("view", .string r.view) ::
      (optionalMember "description" (r.description.map .string) ++
        (optionalMember "synonyms" ((if r.synonyms.isEmpty then none else some r.synonyms).map textList) ++
          ("fields", mapTree FieldInfo.toTree r.fields.entries) :: ("defaultSelect", textList r.defaultSelect) ::
          ("filterable", .boolean r.filterable) :: ("sortable", .boolean r.sortable) ::
          (optionalMember "relations"
            ((if r.relations.isEmpty then none else some r.relations.entries).map (mapTree RelationInfo.toTree)) ++
            [])))) := by
  rw [← ite_none_map _ r.synonyms textList, ← ite_none_map _ r.relations.entries (mapTree RelationInfo.toTree),
    ResourceInfo.toTree]
  simp only [List.append_assoc, List.cons_append, List.nil_append, List.append_nil]
  rfl

theorem ResourceInfo.readsBack (r : ResourceInfo) : resourceShape.ReadsBack 3 r r.toTree := by
  have htext := Shape.readsBack_text 2
  have hlist (texts : List String) := (readsBack_textList texts).mono (by decide : 1 ≤ 2)
  have htruth := Shape.readsBack_truth 2
  rw [r.toTree_eq]
  -- the drafts are said where a member may be left out, since it has to be known there what is filled without it
  refine Shape.Fills.readsBack
    (.field rfl rfl (htext r.view)
      (fills_optionalMember (fun x => ResourceDraft.mk (some r.view) x none none none none none none)
        rfl rfl (fun _ => rfl) (readsBack_description 2)
        (fills_optionalMember
          (fun x => ResourceDraft.mk (some r.view) (r.description.map some) x none none none none none)
          rfl rfl (fun _ => rfl) hlist
          (.field rfl rfl (readsBack_fields r.fields.entries)
            (.field rfl rfl (hlist r.defaultSelect)
              (.field rfl rfl (htruth r.filterable)
                (.field rfl rfl (htruth r.sortable)
                  (fills_optionalMember
                    (fun x => ResourceDraft.mk (some r.view) (r.description.map some)
                      ((if r.synonyms.isEmpty then none else some r.synonyms).map fun l => l) (some r.fields.entries)
                      (some r.defaultSelect) (some r.filterable) (some r.sortable) x)
                    rfl rfl (fun _ => rfl) readsBack_relations (.done _))))))))) ?_
  -- what was left out is put in: no description, no synonyms, no relations
  have hdescription : (r.description.map some).getD none = r.description := by cases r.description <;> rfl
  have hrelations := getD_ite_isEmpty r.relations.entries
  rw [← NameTable.isEmpty] at hrelations
  simp only [required, bind, Except.bind, Option.map_id', Option.getD_some, hdescription,
    getD_ite_isEmpty, hrelations, NameTable.ofList_entries]

/-- A contract is read back from its tree. -/
theorem readsBack (c : Contract) : shape.ReadsBack 5 c (toTree c) := by
  have hresources : (Shape.mapOf resourceShape).ReadsBack 4 c.resources.entries
      (mapTree ResourceInfo.toTree c.resources.entries) :=
    Shape.readsBack_mapOf fun e _ => e.2.readsBack
  refine Shape.Fills.readsBack (.field rfl rfl hresources (.done _)) ?_
  simp [required, Except.map, NameTable.ofList_entries]

end QueryGate.Contract
