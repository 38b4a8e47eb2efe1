import Mathlib.Logic.Relation
import QueryGate.Proofs.Json.Member
import QueryGate.Proofs.Plan.Validation
/-!
Parts of a plan that are dropped: members that are not read, filters, sort keys and fields that name nothing, and join
requests beyond the first ones. Each edit that brings in or takes out one of them leaves alone what validation keeps of
a plan, and so do any number of edits one after the other. Nothing is said here about which names are known; that they
stay the same is a consequence, since the edits leave the resource and the first join requests as they are.
-/
set_option autoImplicit false

namespace QueryGate.Plan

open Json

/-! ## Edits -/

/-- The members of a plan that are read. -/
def planNames : List String := ["resource", "joins", "select", "where", "sort", "limit"]

/-- The lists of a plan that have objects as their entries, each with the members of an entry that are read. -/
def entryNames : List (String × List String) :=
  [("joins", ["resource"]), ("where", ["field", "op", "value"]), ("sort", ["field", "dir"])]

/-- An object gets or loses a member that is not among those which are read. -/
inductive MemberEdit (names : List String) : Value → Value → Prop where
  | put {v : Value} {name : String} (object : v.isObject = true) (unread : name ∉ names) (value : Value) :
    MemberEdit names v (v.put name value)
  | without {v : Value} {name : String} (object : v.isObject = true) (unread : name ∉ names) :
    MemberEdit names v (v.without name)

/-- An entry among filters or sort keys is dropped if it is no object, or if its text for a field is not known. -/
def IsDropped (known : String → Prop) (entry : Value) : Prop :=
  entry.isObject = true → ¬known (textOfMember entry "field")

/-- A plan gets or loses something that is dropped: a member that is not read, of the plan or of an entry of one of its
lists; a filter or a sort key that is dropped; a field that is not known, beside at least one other entry; or a request
after at least two others. -/
inductive NoiseEdit (known : String → Prop) : Value → Value → Prop where
  | member {v w : Value} (edit : MemberEdit planNames v w) : NoiseEdit known v w
  | entryMember {v entry entry' : Value} {list : String} {names : List String} {before after : List Value}
    (read : (list, names) ∈ entryNames) (items : v.get? list = some (.list (before ++ entry :: after)))
    (edit : MemberEdit names entry entry') : NoiseEdit known v (v.put list (.list (before ++ entry' :: after)))
  | entry {v entry : Value} {list : String} {before after : List Value} (read : list = "where" ∨ list = "sort")
    (items : v.get? list = some (.list (before ++ after))) (dropped : IsDropped known entry) :
    NoiseEdit known v (v.put list (.list (before ++ entry :: after)))
  | field {v entry : Value} {before after : List Value}
    (items : v.get? "select" = some (.list (before ++ after))) (not_alone : before ++ after ≠ [])
    (unknown : ¬known (textOf entry)) : NoiseEdit known v (v.put "select" (.list (before ++ entry :: after)))
  | join {v : Value} {requests : List Value} (items : v.get? "joins" = some (.list requests))
    (enough : 2 ≤ requests.length) (request : Value) :
    NoiseEdit known v (v.put "joins" (.list (requests ++ [request])))

/-- Only objects are edited. -/
theorem NoiseEdit.isObject {known : String → Prop} {v w : Value} (h : NoiseEdit known v w) : v.isObject = true := by
  cases h with
  | member edit =>
      cases edit with
      | put object _ _ => exact object
      | without object _ => exact object
  | entryMember _ items _ => exact Value.isObject_of_get? items
  | entry _ items _ => exact Value.isObject_of_get? items
  | field items _ _ => exact Value.isObject_of_get? items
  | join items _ _ => exact Value.isObject_of_get? items

/-- What is read is not edited. -/
theorem MemberEdit.get?_eq {names : List String} {v w : Value} (h : MemberEdit names v w) {name : String}
    (hread : name ∈ names) : v.get? name = w.get? name := by
  cases h with
  | put _ unread value => exact (Value.get?_put_of_ne v (ne_of_mem_of_not_mem hread unread) value).symm
  | without _ unread => exact (Value.get?_without_of_ne v (ne_of_mem_of_not_mem hread unread)).symm

theorem MemberEdit.isObject_eq {names : List String} {v w : Value} (h : MemberEdit names v w) :
    v.isObject = w.isObject := by
  cases h with
  | put _ _ value => exact (Value.isObject_put ..).symm
  | without _ _ => exact (Value.isObject_without ..).symm

/-! ## What is kept of entries -/

section Kept

variable (valid : FieldRef → Bool)

/-- The fields that are kept of some texts. -/
def keptFields (texts : List String) : List FieldRef := (texts.map FieldRef.ofText).filter valid

/-- The filter that is kept of an entry. -/
def keptFilter (entry : Value) : Option Predicate :=
  if entry.isObject then validPredicate valid (readPredicate entry) else none

/-- The sort key that is kept of an entry. -/
def keptSortKey (entry : Value) : Option SortKey :=
  if entry.isObject then validSortKey valid (readSortKey entry) else none

/-- Entries that are objects are read, and then kept or not. -/
theorem filterMap_map_filter_isObject {α β : Type} (read : Value → α) (keep : α → Option β) (items : List Value) :
    ((items.filter Value.isObject).map read).filterMap keep =
      items.filterMap fun entry => if entry.isObject then keep (read entry) else none := by
  rw [List.filterMap_map, List.filterMap_filter]
  rfl

variable {valid} {known : String → Prop}

/-- Nothing is kept of an entry that is dropped. -/
theorem IsDropped.kept_eq_none (hknown : ∀ text, valid (.ofText text) = true → known text) {entry : Value}
    (h : IsDropped known entry) : keptFilter valid entry = none ∧ keptSortKey valid entry = none := by
  unfold keptFilter keptSortKey
  by_cases hobject : entry.isObject = true
  · have hinvalid : ¬valid (.ofText (textOfMember entry "field")) = true := fun hvalid => h hobject (hknown _ hvalid)
    rw [if_pos hobject, if_pos hobject]
    exact ⟨if_neg hinvalid, if_neg hinvalid⟩
  · rw [if_neg hobject, if_neg hobject]
    exact ⟨rfl, rfl⟩

/-- A field that is not known is not kept. -/
theorem keptFields_insert (hknown : ∀ text, valid (.ofText text) = true → known text) {text : String}
    (h : ¬known text) (before after : List String) :
    keptFields valid (before ++ text :: after) = keptFields valid (before ++ after) := by
  have hinvalid : ¬valid (.ofText text) = true := fun hvalid => h (hknown _ hvalid)
  simp only [keptFields, List.map_append, List.map_cons, List.filter_append, List.filter_cons, if_neg hinvalid]

/-- Entries that agree on the members that are read are read alike. -/
theorem MemberEdit.readJoin_eq {entry entry' : Value} (h : MemberEdit ["resource"] entry entry') :
    readJoin entry = readJoin entry' := by
  rw [readJoin, readJoin, h.get?_eq List.mem_cons_self]

theorem MemberEdit.keptFilter_eq {entry entry' : Value} (h : MemberEdit ["field", "op", "value"] entry entry') :
    keptFilter valid entry = keptFilter valid entry' := by
  have hread : readPredicate entry = readPredicate entry' := by
    rw [readPredicate, readPredicate, textOfMember, textOfMember, h.get?_eq (by decide : "field" ∈ _),
      h.get?_eq (by decide : "op" ∈ _), h.get?_eq (by decide : "value" ∈ _)]
  rw [keptFilter, keptFilter, h.isObject_eq, hread]

theorem MemberEdit.keptSortKey_eq {entry entry' : Value} (h : MemberEdit ["field", "dir"] entry entry') :
    keptSortKey valid entry = keptSortKey valid entry' := by
  have hread : readSortKey entry = readSortKey entry' := by
    rw [readSortKey, readSortKey, textOfMember, textOfMember, h.get?_eq (by decide : "field" ∈ _),
      h.get?_eq (by decide : "dir" ∈ _)]
  rw [keptSortKey, keptSortKey, h.isObject_eq, hread]

end Kept

/-! ## Plans that are read alike -/

/-- Two values are read alike if the same is kept of them, as far as a test of references goes. -/
structure ReadAlike (valid : FieldRef → Bool) (v w : Value) : Prop where
  object : v.isObject = w.isObject
  resource : textOfMember v "resource" = textOfMember w "resource"
  joins : ((itemsOfMember v "joins").map readJoin).take maxJoins =
    ((itemsOfMember w "joins").map readJoin).take maxJoins
  select : (readSelect v).map (keptFields valid) = (readSelect w).map (keptFields valid)
  filters : (itemsOfMember v "where").filterMap (keptFilter valid) =
    (itemsOfMember w "where").filterMap (keptFilter valid)
  sort : (itemsOfMember v "sort").filterMap (keptSortKey valid) =
    (itemsOfMember w "sort").filterMap (keptSortKey valid)
  limit : clampLimit (v.get? "limit") = clampLimit (w.get? "limit")

namespace ReadAlike

variable {valid : FieldRef → Bool} {v w u : Value}

theorem refl (v : Value) : ReadAlike valid v v := ⟨rfl, rfl, rfl, rfl, rfl, rfl, rfl⟩

theorem trans (h : ReadAlike valid v w) (h' : ReadAlike valid w u) : ReadAlike valid v u where
  object := h.object.trans h'.object
  resource := h.resource.trans h'.resource
  joins := h.joins.trans h'.joins
  select := h.select.trans h'.select
  filters := h.filters.trans h'.filters
  sort := h.sort.trans h'.sort
  limit := h.limit.trans h'.limit

end ReadAlike

/-- Validation keeps the same of plans that are read alike. -/
theorem ReadAlike.keptPlan_eq {c : Contract} {base : Contract.ResourceInfo} {v w : Value}
    (h : ReadAlike (isValidRef c base (validJoins c base (readPlan v).joins)) v w) (resource : String) :
    keptPlan c resource base (readPlan v) = keptPlan c resource base (readPlan w) := by
  have hjoins : validJoins c base (readPlan v).joins = validJoins c base (readPlan w).joins := by
    rw [validJoins, validJoins]
    exact congrArg (fun requests => (requests.filterMap (joinOf c base)).foldl addJoin []) h.joins
  have hlimit : clampLimit (readPlan v).limit = clampLimit (readPlan w).limit := h.limit
  have hselect (v : Value) : keptFields (isValidRef c base (validJoins c base (readPlan w).joins))
      ((readPlan v).select.getD base.defaultSelect) =
        ((readSelect v).map (keptFields (isValidRef c base (validJoins c base (readPlan w).joins)))).getD
          (keptFields (isValidRef c base (validJoins c base (readPlan w).joins)) base.defaultSelect) :=
    (Option.getD_map ..).symm
  have hfilters := h.filters
  have hsort := h.sort
  have hfields := h.select
  unfold keptFilter at hfilters
  unfold keptSortKey at hsort
  rw [← filterMap_map_filter_isObject, ← filterMap_map_filter_isObject] at hfilters hsort
  rw [hjoins] at hfilters hsort hfields
  rw [keptPlan, keptPlan, hjoins, hlimit, ValidPlan.mk.injEq]
  refine ⟨rfl, rfl, ?_, hfilters, hsort, rfl⟩
  rw [← keptFields, ← keptFields, hselect, hselect, hfields]

/-! ## What edits leave alone -/

section Edits

variable {valid : FieldRef → Bool} {known : String → Prop} {v w : Value}

/-- Values that agree on all members but one are read alike if what is kept of that member is the same. -/
theorem readAlike_of_get? (changed : String) (object : v.isObject = w.isObject)
    (same : ∀ name ∈ planNames, name ≠ changed → v.get? name = w.get? name) (resource : changed ≠ "resource")
    (joins : changed = "joins" → ((itemsOfMember v "joins").map readJoin).take maxJoins =
      ((itemsOfMember w "joins").map readJoin).take maxJoins)
    (select : changed = "select" → (readSelect v).map (keptFields valid) = (readSelect w).map (keptFields valid))
    (filters : changed = "where" → (itemsOfMember v "where").filterMap (keptFilter valid) =
      (itemsOfMember w "where").filterMap (keptFilter valid))
    (sort : changed = "sort" → (itemsOfMember v "sort").filterMap (keptSortKey valid) =
      (itemsOfMember w "sort").filterMap (keptSortKey valid))
    (limit : changed = "limit" → clampLimit (v.get? "limit") = clampLimit (w.get? "limit")) :
    ReadAlike valid v w where
  object := object
  resource := by rw [textOfMember, textOfMember, same "resource" (by decide) resource.symm]
  joins := by
    by_cases h : "joins" = changed
    · exact joins h.symm
    · rw [itemsOfMember, itemsOfMember, same "joins" (by decide) h]
  select := by
    by_cases h : "select" = changed
    · exact select h.symm
    · rw [readSelect, readSelect, same "select" (by decide) h]
  filters := by
    by_cases h : "where" = changed
    · exact filters h.symm
    · rw [itemsOfMember, itemsOfMember, same "where" (by decide) h]
  sort := by
    by_cases h : "sort" = changed
    · exact sort h.symm
    · rw [itemsOfMember, itemsOfMember, same "sort" (by decide) h]
  limit := by
    by_cases h : "limit" = changed
    · exact limit h.symm
    · rw [same "limit" (by decide) h]

theorem itemsOfMember_eq {list : String} {items : List Value} (h : v.get? list = some (.list items)) :
    itemsOfMember v list = items := by
  rw [itemsOfMember, h]
  rfl

theorem readSelect_eq {items : List Value} (h : v.get? "select" = some (.list items)) (hne : items ≠ []) :
    readSelect v = some (items.map textOf) := by
  cases items with
  | nil => exact absurd rfl hne
  | cons item rest => rw [readSelect, h]

/-- A plan is read alike after one of its lists is replaced if the same is kept of both. -/
theorem readAlike_put {list : String} {items items' : List Value} (h : v.get? list = some (.list items))
    (resource : list ≠ "resource") (limit : list ≠ "limit")
    (joins : list = "joins" → (items.map readJoin).take maxJoins = (items'.map readJoin).take maxJoins)
    (select : list = "select" → items ≠ [] ∧ items' ≠ []
      ∧ keptFields valid (items.map textOf) = keptFields valid (items'.map textOf))
    (filters : list = "where" → items.filterMap (keptFilter valid) = items'.filterMap (keptFilter valid))
    (sort : list = "sort" → items.filterMap (keptSortKey valid) = items'.filterMap (keptSortKey valid)) :
    ReadAlike valid v (v.put list (.list items')) := by
  have hput : (v.put list (.list items')).get? list = some (.list items') :=
    Value.get?_put_self (Value.isObject_of_get? h) list _
  refine readAlike_of_get? list (Value.isObject_put ..).symm
    (fun name _ hname => (Value.get?_put_of_ne v hname _).symm) resource ?_ ?_ ?_ ?_
    (absurd · limit)
  · rintro rfl
    rw [itemsOfMember_eq h, itemsOfMember_eq hput]
    exact joins rfl
  · rintro rfl
    obtain ⟨hne, hne', hkept⟩ := select rfl
    rw [readSelect_eq h hne, readSelect_eq hput hne', Option.map_some, Option.map_some, hkept]
  · rintro rfl
    rw [itemsOfMember_eq h, itemsOfMember_eq hput]
    exact filters rfl
  · rintro rfl
    rw [itemsOfMember_eq h, itemsOfMember_eq hput]
    exact sort rfl

/-- An entry of which nothing is kept can stand anywhere in a list. -/
theorem filterMap_insert {α : Type} {keep : Value → Option α} {entry : Value} (h : keep entry = none)
    (before after : List Value) :
    (before ++ after).filterMap keep = (before ++ entry :: after).filterMap keep := by
  rw [List.filterMap_append, List.filterMap_append, List.filterMap_cons_none h]

/-- An entry can be replaced by one of which the same is kept. -/
theorem filterMap_replace {α : Type} {keep : Value → Option α} {entry entry' : Value} (h : keep entry = keep entry')
    (before after : List Value) :
    (before ++ entry :: after).filterMap keep = (before ++ entry' :: after).filterMap keep := by
  rw [List.filterMap_append, List.filterMap_append, List.filterMap_cons, List.filterMap_cons, h]

/-- A plan is read alike after an edit, whatever test of references passes no others than those of known fields. -/
theorem NoiseEdit.readAlike (hknown : ∀ text, valid (.ofText text) = true → known text) (h : NoiseEdit known v w) :
    ReadAlike valid v w := by
  cases h with
  | member edit =>
      -- no member that is read is changed, so any other name will do for the one that is
      exact readAlike_of_get? "" edit.isObject_eq (fun name hname _ => edit.get?_eq hname) nofun nofun nofun nofun nofun
        nofun
  | entryMember read items edit =>
      simp only [entryNames, List.mem_cons, Prod.mk.injEq, List.not_mem_nil, or_false] at read
      rcases read with ⟨rfl, rfl⟩ | ⟨rfl, rfl⟩ | ⟨rfl, rfl⟩
      · refine readAlike_put items nofun nofun (fun _ => ?_) nofun nofun nofun
        rw [List.map_append, List.map_append, List.map_cons, List.map_cons, edit.readJoin_eq]
      · exact readAlike_put items nofun nofun nofun nofun (fun _ => filterMap_replace edit.keptFilter_eq _ _) nofun
      · exact readAlike_put items nofun nofun nofun nofun nofun fun _ => filterMap_replace edit.keptSortKey_eq _ _
  | entry read items dropped =>
      obtain ⟨hfilter, hsort⟩ := dropped.kept_eq_none hknown
      rcases read with rfl | rfl
      · exact readAlike_put items nofun nofun nofun nofun (fun _ => filterMap_insert hfilter _ _) nofun
      · exact readAlike_put items nofun nofun nofun nofun nofun fun _ => filterMap_insert hsort _ _
  | field items not_alone unknown =>
      refine readAlike_put items nofun nofun nofun (fun _ => ⟨not_alone, by simp, ?_⟩) nofun nofun
      rw [List.map_append, List.map_append, List.map_cons, keptFields_insert hknown unknown]
  | join items enough request =>
      refine readAlike_put items nofun nofun (fun _ => ?_) nofun nofun nofun
      -- the first requests are there already
      rw [List.map_append, List.take_append_of_le_length]
      rw [List.length_map]
      exact enough

/-- A plan is read alike after any number of edits. -/
theorem readAlike_of_edits (hknown : ∀ text, valid (.ofText text) = true → known text)
    (h : Relation.ReflTransGen (NoiseEdit known) v w) : ReadAlike valid v w := by
  induction h with
  | refl => exact .refl v
  | tail _ hedit ih => exact ih.trans (hedit.readAlike hknown)

end Edits

end QueryGate.Plan
