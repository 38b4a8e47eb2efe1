import Mathlib.Data.List.Basic
import QueryGate.Proofs.Plan.Validation
/-!
Which joins a plan is accepted with. Of the first requests, those that name a declared link are accepted, each link
once. So a reference is valid exactly if it leads to a field of the base or of the target of a link that one of these
requests names; and requests that name the accepted joins lead to the same joins again.
-/
set_option autoImplicit false

namespace QueryGate.Plan

variable {c : Contract} {base : Contract.ResourceInfo}

/-! ## Requests and links -/

/-- A request for a declared link leads to the join along it. -/
theorem joinOf_link {l : Link} (h : l.IsDeclared c base) : joinOf c base (some l.name) = some l.join :=
  (joinOf_eq_some_iff _ _).2 ⟨l, h, rfl, rfl⟩

/-- Declared links of one name are the same. -/
theorem Link.IsDeclared.eq_of_name {l k : Link} (hl : l.IsDeclared c base) (hk : k.IsDeclared c base)
    (hname : l.name = k.name) : l = k := by
  obtain ⟨name, relation, target⟩ := l
  obtain ⟨name', relation', target'⟩ := k
  obtain rfl : name = name' := hname
  obtain rfl : relation = relation' := Option.some.inj (hl.1.symm.trans hk.1)
  obtain rfl : target = target' := Option.some.inj (hl.2.symm.trans hk.2)
  rfl

/-- Adding joins loses none, and joins the relation of each. -/
theorem exists_relation_foldl_addJoin (joins added : List ValidJoin) :
    (∀ j ∈ joins, j ∈ added.foldl addJoin joins)
      ∧ ∀ j ∈ added, ∃ k ∈ added.foldl addJoin joins, k.relation = j.relation := by
  induction added generalizing joins with
  | nil => exact ⟨fun j hj => hj, by simp⟩
  | cons a rest ih =>
      obtain ⟨hkept, hadded⟩ := ih (addJoin joins a)
      have hstep : (∀ j ∈ joins, j ∈ addJoin joins a) ∧ ∃ k ∈ addJoin joins a, k.relation = a.relation := by
        unfold addJoin
        split
        · rename_i hknown
          obtain ⟨k, hk, hrelation⟩ := List.any_eq_true.1 hknown
          exact ⟨fun j hj => hj, k, hk, of_decide_eq_true hrelation⟩
        · exact ⟨fun j hj => List.mem_append_left _ hj, a, by simp, rfl⟩
      rw [List.foldl_cons, List.forall_mem_cons]
      refine ⟨fun j hj => hkept j (hstep.1 j hj), ?_, hadded⟩
      obtain ⟨k, hk, hrelation⟩ := hstep.2
      exact ⟨k, hkept k hk, hrelation⟩

/-- The join along a declared link is accepted exactly if one of the first requests names it. -/
theorem join_mem_validJoins_iff {l : Link} (hl : l.IsDeclared c base) (requests : List (Option String)) :
    l.join ∈ validJoins c base requests ↔ some l.name ∈ requests.take maxJoins := by
  constructor
  · intro hmem
    rcases (foldl_addJoin [] _ List.nodup_nil).2 _ hmem with hmem | hmem
    · exact absurd hmem List.not_mem_nil
    · obtain ⟨request, hrequest, hjoin⟩ := List.mem_filterMap.1 hmem
      obtain ⟨k, -, rfl, hsame⟩ := (joinOf_eq_some_iff request _).1 hjoin
      have hname : k.name = l.name := congrArg ValidJoin.relation hsame
      exact hname ▸ hrequest
  · intro hrequest
    have hfound : l.join ∈ (requests.take maxJoins).filterMap (joinOf c base) :=
      List.mem_filterMap.2 ⟨_, hrequest, joinOf_link hl⟩
    obtain ⟨j, hj, hrelation⟩ := (exists_relation_foldl_addJoin [] _).2 _ hfound
    -- whatever join has this relation is the one along the link
    obtain ⟨links, hlinks, hdeclared⟩ := exists_links_validJoins c base requests
    have hmem : j ∈ links.map Link.join := hlinks ▸ hj
    obtain ⟨k, hk, rfl⟩ := List.mem_map.1 hmem
    obtain rfl : k = l := (hdeclared k hk).eq_of_name hl hrelation
    exact hj

/-! ## Valid references -/

/-- A reference can be selected in a plan with these join requests: it is a declared field of the base, or one of the
target of a declared link that the first requests name. -/
def IsSelectable (c : Contract) (base : Contract.ResourceInfo) (requests : List (Option String)) (f : FieldRef) :
    Prop :=
  (f.relation = none ∧ base.hasField f.field = true)
    ∨ ∃ l : Link, l.IsDeclared c base ∧ some l.name ∈ requests.take maxJoins ∧ f.relation = some l.name
      ∧ l.target.hasField f.field = true

/-- What can be selected stays so where more joins are requested. -/
theorem IsSelectable.mono {requests more : List (Option String)} {f : FieldRef} (h : IsSelectable c base requests f)
    (hmore : requests.take maxJoins ⊆ more.take maxJoins) : IsSelectable c base more f := by
  rcases h with h | ⟨l, hl, hrequest, h⟩
  · exact .inl h
  · exact .inr ⟨l, hl, hmore hrequest, h⟩

/-- The references that are valid beside the accepted joins are those that can be selected. -/
theorem isValidRef_validJoins_iff (requests : List (Option String)) (f : FieldRef) :
    isValidRef c base (validJoins c base requests) f = true ↔ IsSelectable c base requests f := by
  obtain ⟨links, hlinks, hdeclared⟩ := exists_links_validJoins c base requests
  have hnames : (links.map (·.name)).Nodup := by
    have hnodup : ((validJoins c base requests).map (·.relation)).Nodup := nodup_relation_validJoins requests
    rw [← hlinks, List.map_map] at hnodup
    exact hnodup
  constructor
  · intro hvalid
    rw [← hlinks] at hvalid
    obtain ⟨info, hleads⟩ := exists_leadsTo hdeclared hvalid
    cases hleads with
    | base hfield => exact .inl ⟨rfl, hfield⟩
    | @link l _ hl hfield =>
        have hmem : l.join ∈ validJoins c base requests := hlinks ▸ List.mem_map_of_mem hl
        exact .inr ⟨l, hdeclared l hl, (join_mem_validJoins_iff (hdeclared l hl) requests).1 hmem, rfl, hfield⟩
  · obtain ⟨relation, field⟩ := f
    rintro (⟨hrelation, hfield⟩ | ⟨l, hl, hrequest, hrelation, hfield⟩)
    · cases hrelation
      exact hfield
    · cases hrelation
      have hmem := (join_mem_validJoins_iff hl requests).2 hrequest
      rw [← hlinks] at hmem
      obtain ⟨k, hk, hsame⟩ := List.mem_map.1 hmem
      obtain rfl : k = l := (hdeclared k hk).eq_of_name hl (congrArg ValidJoin.relation hsame)
      have hleads : LeadsTo base links ⟨some k.name, field⟩ k.target := .link hk hfield
      rw [isValidRef, ← hlinks, hleads.resourceOf_eq hnames hdeclared]
      exact hfield

/-! ## Requests for accepted joins -/

/-- No more joins are accepted than requests are considered. -/
theorem length_validJoins_le (requests : List (Option String)) : (validJoins c base requests).length ≤ maxJoins := by
  have hfold (joins added : List ValidJoin) : (added.foldl addJoin joins).length ≤ joins.length + added.length := by
    induction added generalizing joins with
    | nil => exact Nat.le_refl _
    | cons a rest ih =>
        have hstep : (addJoin joins a).length ≤ joins.length + 1 := by
          unfold addJoin
          split
          · exact Nat.le_succ _
          · simp
        have hrest := ih (addJoin joins a)
        rw [List.foldl_cons, List.length_cons]
        omega
  have hadded := hfold [] ((requests.take maxJoins).filterMap (joinOf c base))
  have hfound := List.length_filterMap_le (joinOf c base) (requests.take maxJoins)
  have htaken : (requests.take maxJoins).length ≤ maxJoins := List.length_take_le _ _
  rw [List.length_nil] at hadded
  unfold validJoins
  omega

/-- Joins along distinct relations are all added. -/
theorem foldl_addJoin_eq_append {joins added : List ValidJoin} (h : ((joins ++ added).map (·.relation)).Nodup) :
    added.foldl addJoin joins = joins ++ added := by
  induction added generalizing joins with
  | nil => simp
  | cons a rest ih =>
      have hnew : addJoin joins a = joins ++ [a] := by
        unfold addJoin
        rw [if_neg]
        intro hknown
        obtain ⟨k, hk, hrelation⟩ := List.any_eq_true.1 hknown
        rw [List.map_append, List.nodup_append] at h
        exact h.2.2 _ (List.mem_map_of_mem hk) _ (List.mem_map_of_mem List.mem_cons_self) (of_decide_eq_true hrelation)
      have hsplit : joins ++ a :: rest = joins ++ [a] ++ rest := by simp
      rw [hsplit] at h ⊢
      rw [List.foldl_cons, hnew, ih h]

/-- Requests that name the accepted joins are accepted as the same joins. -/
theorem validJoins_relations (requests : List (Option String)) :
    validJoins c base ((validJoins c base requests).map fun j => some j.relation) = validJoins c base requests := by
  have hnodup : ((validJoins c base requests).map (·.relation)).Nodup := nodup_relation_validJoins requests
  have hlength : (validJoins c base requests).length ≤ maxJoins := length_validJoins_le requests
  obtain ⟨links, hlinks, hdeclared⟩ := exists_links_validJoins c base requests
  rw [← hlinks] at hnodup hlength ⊢
  have hnames : ((links.map Link.join).map fun j => some j.relation) = links.map fun l => some l.name := by
    rw [List.map_map]
    rfl
  have htaken : (links.map fun l => some l.name).take maxJoins = links.map fun l => some l.name := by
    apply List.take_of_length_le
    rw [List.length_map] at hlength ⊢
    exact hlength
  have hfound : (links.map fun l => some l.name).filterMap (joinOf c base) = links.map Link.join := by
    rw [List.filterMap_map, List.filterMap_eq_map_iff_forall_eq_some]
    exact fun l hl => joinOf_link (hdeclared l hl)
  rw [hnames, validJoins, htaken, hfound]
  exact foldl_addJoin_eq_append hnodup

end QueryGate.Plan
