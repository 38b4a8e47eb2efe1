import Mathlib.Data.List.Sort
import Mathlib.Data.Prod.Lex
import QueryGate.Proofs.Contract.Consistency
/-!
What the check of a contract reports: every violation once, in the order of declaration.

The order is one of places. A place is a part of a resource, such as its view or the alias of one of its relations, and
at each place at most one thing can be wrong. The report is shown with its places beside it; as the places ascend,
nothing is reported twice, and no other list has the same places and violations.
-/
set_option autoImplicit false

namespace QueryGate.Contract

/-! ## Places -/

/-- A part of a resource. Default fields and relations are counted from zero. -/
inductive Part where
  | view
  | defaultField (i : Nat)
  | localField (j : Nat)
  /-- The target of a relation and its field there. -/
  | target (j : Nat)
  | tableAlias (j : Nat)
deriving DecidableEq

/-- A part of a resource of a contract. Resources are counted from zero. -/
structure Place where
  resource : Nat
  part : Part
deriving DecidableEq

/-- The position of a part in its resource: first the view, then the default fields, then one relation after the
other. -/
def Part.position : Part → Nat ×ₗ Nat ×ₗ Nat
  | .view => toLex (0, toLex (0, 0))
  | .defaultField i => toLex (1, toLex (i, 0))
  | .localField j => toLex (2, toLex (j, 0))
  | .target j => toLex (2, toLex (j, 1))
  | .tableAlias j => toLex (2, toLex (j, 2))

/-- The position of a place in a contract. -/
def Place.position (p : Place) : Nat ×ₗ Nat ×ₗ Nat ×ₗ Nat := toLex (p.resource, p.part.position)

/-- The aliases of relations. -/
def aliasesOf (relations : List (String × RelationInfo)) : List String := relations.map fun e => e.2.tableAlias

/-- What is wrong with a part of a resource. -/
inductive ResourceInfo.IsViolatedAt (c : Contract) (name : String) (r : ResourceInfo) : Part → Violation → Prop where
  | view (hblank : Text.isBlankText r.view = true) : IsViolatedAt c name r .view (.emptyView name)
  | defaultField {i : Nat} {field : String} (hfield : r.defaultSelect[i]? = some field)
      (hmissing : r.hasField field = false) :
      IsViolatedAt c name r (.defaultField i) (.unknownDefaultField name field)
  | localField {j : Nat} {relation : String} {info : RelationInfo}
      (hrelation : r.relations.entries[j]? = some (relation, info)) (hmissing : r.hasField info.localField = false) :
      IsViolatedAt c name r (.localField j) (.unknownLocalField name relation info.localField)
  | target {j : Nat} {relation : String} {info : RelationInfo}
      (hrelation : r.relations.entries[j]? = some (relation, info))
      (hmissing : c.resource? info.targetResource = none) :
      IsViolatedAt c name r (.target j) (.unknownTarget name relation info.targetResource)
  | targetField {j : Nat} {relation : String} {info : RelationInfo} {target : ResourceInfo}
      (hrelation : r.relations.entries[j]? = some (relation, info))
      (htarget : c.resource? info.targetResource = some target) (hmissing : target.hasField info.targetField = false) :
      IsViolatedAt c name r (.target j) (.unknownTargetField relation info.targetResource info.targetField)
  | tableAlias {j : Nat} {relation : String} {info : RelationInfo}
      (hrelation : r.relations.entries[j]? = some (relation, info))
      (htaken : info.tableAlias = baseAlias ∨ info.tableAlias ∈ aliasesOf (r.relations.entries.take j)) :
      IsViolatedAt c name r (.tableAlias j) (.repeatedAlias name info.tableAlias)

/-- What is wrong at a place of a contract. -/
def IsViolatedAt (c : Contract) (p : Place) (v : Violation) : Prop :=
  ∃ name r, c.resources.entries[p.resource]? = some (name, r) ∧ r.IsViolatedAt c name p.part v

/-- Violations are those of a contract, each once and in the order of their places. -/
def IsReport (c : Contract) (vs : List Violation) : Prop :=
  ∃ found : List (Place × Violation), found.map Prod.snd = vs
    ∧ found.Pairwise (fun a b => a.1.position < b.1.position)
    ∧ ∀ p v, (p, v) ∈ found ↔ c.IsViolatedAt p v

/-! ## Lists with their positions -/

section Positions

variable {α β γ : Type} {l : List α} {f : α × Nat → List β}

theorem mem_flatMap_zipIdx_iff {b : β} : b ∈ l.zipIdx.flatMap f ↔ ∃ i a, l[i]? = some a ∧ b ∈ f (a, i) := by
  rw [List.mem_flatMap]
  constructor
  · rintro ⟨⟨a, i⟩, hmem, hb⟩
    exact ⟨i, a, List.mk_mem_zipIdx_iff_getElem?.1 hmem, hb⟩
  · rintro ⟨i, a, ha, hb⟩
    exact ⟨(a, i), List.mk_mem_zipIdx_iff_getElem?.2 ha, hb⟩

/-- What is made of the items with their positions is in order if it is for each item and from item to item. -/
theorem pairwise_flatMap_zipIdx {R : β → β → Prop} (hown : ∀ i a, (f (a, i)).Pairwise R)
    (hnext : ∀ i j a b, i < j → ∀ x ∈ f (a, i), ∀ y ∈ f (b, j), R x y) : (l.zipIdx.flatMap f).Pairwise R := by
  rw [List.pairwise_flatMap]
  refine ⟨fun e _ => hown e.2 e.1, ?_⟩
  rw [List.pairwise_iff_getElem]
  intro i j hi hj hij
  rw [List.getElem_zipIdx, List.getElem_zipIdx]
  exact hnext _ _ _ _ (by omega)

/-- If the positions do not show in the end, they can be left out from the beginning. -/
theorem map_flatMap_zipIdx {g : β → γ} {h : α → List γ} (hf : ∀ i a, (f (a, i)).map g = h a) :
    (l.zipIdx.flatMap f).map g = l.flatMap h := by
  have hfst : l.flatMap h = l.zipIdx.flatMap fun e => h e.1 := by
    rw [← List.zipIdx_map_fst 0 l, List.flatMap_map, List.zipIdx_map_fst]
  rw [List.map_flatMap, hfst]
  exact congrArg (fun k => l.zipIdx.flatMap k) (funext fun e => hf e.2 e.1)

end Positions

/-! ## What can be wrong at one place -/

/-- The violation of a default field, if it is not declared. -/
def defaultViolation (name : String) (r : ResourceInfo) (field : String) : List Violation :=
  if r.hasField field then [] else [.unknownDefaultField name field]

/-- The violation of the local field of a relation, if it is not declared. -/
def localViolation (name : String) (r : ResourceInfo) (relation : String) (info : RelationInfo) : List Violation :=
  if r.hasField info.localField then [] else [.unknownLocalField name relation info.localField]

/-- The violation of the target of a relation or of its field there. -/
def targetViolation (c : Contract) (name relation : String) (info : RelationInfo) : List Violation :=
  match c.resource? info.targetResource with
  | none => [.unknownTarget name relation info.targetResource]
  | some target =>
    if target.hasField info.targetField then []
    else [.unknownTargetField relation info.targetResource info.targetField]

/-- The violation of an alias, if it is taken. -/
def aliasViolation (name : String) (taken : List String) (info : RelationInfo) : List Violation :=
  if info.tableAlias ∈ taken then [.repeatedAlias name info.tableAlias] else []

theorem defaultViolations_eq_flatMap (name : String) (r : ResourceInfo) :
    defaultViolations name r = r.defaultSelect.flatMap (defaultViolation name r) := by
  unfold defaultViolations
  induction r.defaultSelect with
  | nil => rfl
  | cons field rest ih =>
      rw [List.flatMap_cons, ← ih, defaultViolation]
      cases h : r.hasField field <;> simp [h]

/-- Each relation is looked at with the aliases before it. -/
theorem relationViolations_eq_flatMap (c : Contract) (name : String) (r : ResourceInfo) (taken : List String)
    (relations : List (String × RelationInfo)) :
    relationViolations c name r taken relations = relations.zipIdx.flatMap fun e =>
      localViolation name r e.1.1 e.1.2 ++ targetViolation c name e.1.1 e.1.2
        ++ aliasViolation name (taken ++ aliasesOf (relations.take e.2)) e.1.2 := by
  -- the aliases that are taken grow along the relations, where those before a relation stay as they are
  induction relations generalizing taken with
  | nil => rfl
  | cons e rest ih =>
      have hends : endpointViolations c name r e.1 e.2 =
          localViolation name r e.1 e.2 ++ targetViolation c name e.1 e.2 := rfl
      have hfirst : (if e.2.tableAlias ∈ taken then [Violation.repeatedAlias name e.2.tableAlias] else []) =
          aliasViolation name (taken ++ aliasesOf ((e :: rest).take 0)) e.2 := by
        rw [List.take_zero, aliasesOf, List.map_nil, List.append_nil, aliasViolation]
      have hrest : ∀ (info : RelationInfo) (j : Nat),
          aliasViolation name (e.2.tableAlias :: taken ++ aliasesOf (rest.take j)) info =
            aliasViolation name (taken ++ aliasesOf ((e :: rest).take (j + 1))) info := by
        intro info j
        unfold aliasViolation
        congr 1
        simp only [List.take_succ_cons, aliasesOf, List.map_cons, List.cons_append, List.mem_cons, List.mem_append,
          eq_iff_iff]
        exact or_left_comm
      rw [relationViolations, ih, hends, hfirst, List.zipIdx_cons, List.flatMap_cons, Nat.zero_add,
        List.zipIdx_succ, List.flatMap_map]
      simp only [hrest]

/-! ## The report with its places -/

/-- Violations with the part at which they are. -/
def placed (p : Part) (vs : List Violation) : List (Part × Violation) := vs.map fun v => (p, v)

theorem map_snd_placed (p : Part) (vs : List Violation) : (placed p vs).map Prod.snd = vs := by
  rw [placed, List.map_map]
  exact List.map_id vs

theorem mem_placed_iff {p q : Part} {v : Violation} {vs : List Violation} :
    (q, v) ∈ placed p vs ↔ q = p ∧ v ∈ vs := by
  rw [placed, List.mem_map]
  constructor
  · rintro ⟨w, hw, heq⟩
    cases heq
    exact ⟨rfl, hw⟩
  · rintro ⟨rfl, hv⟩
    exact ⟨v, hv, rfl⟩

/-- The report on a relation. -/
def relationReport (c : Contract) (name : String) (r : ResourceInfo) (e : (String × RelationInfo) × Nat) :
    List (Part × Violation) :=
  placed (.localField e.2) (localViolation name r e.1.1 e.1.2)
    ++ placed (.target e.2) (targetViolation c name e.1.1 e.1.2)
    ++ placed (.tableAlias e.2)
      (aliasViolation name ([baseAlias] ++ aliasesOf (r.relations.entries.take e.2)) e.1.2)

/-- The report on a resource. -/
def resourceReport (c : Contract) (name : String) (r : ResourceInfo) : List (Part × Violation) :=
  placed .view (viewViolations name r)
    ++ (r.defaultSelect.zipIdx.flatMap fun e => placed (.defaultField e.2) (defaultViolation name r e.1))
    ++ r.relations.entries.zipIdx.flatMap (relationReport c name r)

/-- The report on a contract. -/
def report (c : Contract) : List (Place × Violation) :=
  c.resources.entries.zipIdx.flatMap fun e => (resourceReport c e.1.1 e.1.2).map fun x => (⟨e.2, x.1⟩, x.2)

theorem map_snd_resourceReport (c : Contract) (name : String) (r : ResourceInfo) :
    (resourceReport c name r).map Prod.snd = resourceViolations c name r := by
  have hdefaults : (r.defaultSelect.zipIdx.flatMap fun e =>
      placed (.defaultField e.2) (defaultViolation name r e.1)).map Prod.snd = defaultViolations name r := by
    rw [defaultViolations_eq_flatMap]
    exact map_flatMap_zipIdx fun _ _ => map_snd_placed _ _
  have hrelations : (r.relations.entries.zipIdx.flatMap (relationReport c name r)).map Prod.snd =
      relationViolations c name r [baseAlias] r.relations.entries := by
    rw [relationViolations_eq_flatMap, List.map_flatMap]
    simp only [relationReport, List.map_append, map_snd_placed]
  rw [resourceReport, List.map_append, List.map_append, map_snd_placed, hdefaults, hrelations, resourceViolations]

/-- Without its places the report is what the check finds. -/
theorem map_snd_report (c : Contract) : (report c).map Prod.snd = violations c := by
  apply map_flatMap_zipIdx
  rintro i ⟨name, r⟩
  rw [List.map_map]
  exact map_snd_resourceReport c name r

/-! ### What it holds -/

theorem mem_viewViolations_iff {name : String} {r : ResourceInfo} {v : Violation} :
    v ∈ viewViolations name r ↔ Text.isBlankText r.view = true ∧ v = .emptyView name := by
  unfold viewViolations
  by_cases h : Text.isBlankText r.view = true
  · simp [h]
  · simp [h]

theorem mem_defaultViolation_iff {name : String} {r : ResourceInfo} {field : String} {v : Violation} :
    v ∈ defaultViolation name r field ↔ r.hasField field = false ∧ v = .unknownDefaultField name field := by
  unfold defaultViolation
  cases h : r.hasField field <;> simp

theorem mem_localViolation_iff {name : String} {r : ResourceInfo} {relation : String} {info : RelationInfo}
    {v : Violation} : v ∈ localViolation name r relation info ↔
      r.hasField info.localField = false ∧ v = .unknownLocalField name relation info.localField := by
  unfold localViolation
  cases h : r.hasField info.localField <;> simp

theorem mem_targetViolation_iff {c : Contract} {name relation : String} {info : RelationInfo} {v : Violation} :
    v ∈ targetViolation c name relation info ↔
      c.resource? info.targetResource = none ∧ v = .unknownTarget name relation info.targetResource
        ∨ ∃ target, c.resource? info.targetResource = some target ∧ target.hasField info.targetField = false
          ∧ v = .unknownTargetField relation info.targetResource info.targetField := by
  unfold targetViolation
  cases c.resource? info.targetResource with
  | none => simp
  | some target => cases h : target.hasField info.targetField <;> simp [h]

theorem mem_aliasViolation_iff {name : String} {taken : List String} {info : RelationInfo} {v : Violation} :
    v ∈ aliasViolation name taken info ↔ info.tableAlias ∈ taken ∧ v = .repeatedAlias name info.tableAlias := by
  unfold aliasViolation
  by_cases h : info.tableAlias ∈ taken
  · simp [h]
  · simp [h]

theorem mem_relationReport_iff {c : Contract} {name : String} {r : ResourceInfo} {e : (String × RelationInfo) × Nat}
    {p : Part} {v : Violation} : (p, v) ∈ relationReport c name r e ↔
      p = .localField e.2 ∧ v ∈ localViolation name r e.1.1 e.1.2
        ∨ p = .target e.2 ∧ v ∈ targetViolation c name e.1.1 e.1.2
        ∨ p = .tableAlias e.2
          ∧ v ∈ aliasViolation name ([baseAlias] ++ aliasesOf (r.relations.entries.take e.2)) e.1.2 := by
  rw [relationReport, List.mem_append, List.mem_append, mem_placed_iff, mem_placed_iff, mem_placed_iff, or_assoc]

/-- The report on a resource holds what is wrong with its parts. -/
theorem mem_resourceReport_iff {c : Contract} {name : String} {r : ResourceInfo} {p : Part} {v : Violation} :
    (p, v) ∈ resourceReport c name r ↔ r.IsViolatedAt c name p v := by
  simp only [resourceReport, List.mem_append, mem_placed_iff, mem_flatMap_zipIdx_iff, mem_viewViolations_iff,
    mem_defaultViolation_iff, mem_relationReport_iff, mem_localViolation_iff, mem_targetViolation_iff,
    mem_aliasViolation_iff, List.singleton_append, List.mem_cons]
  constructor
  · rintro ((⟨rfl, hblank, rfl⟩ | ⟨i, field, hfield, rfl, hmissing, rfl⟩) | ⟨j, ⟨relation, info⟩, hrelation, hwrong⟩)
    · exact .view hblank
    · exact .defaultField hfield hmissing
    · rcases hwrong with ⟨rfl, hmissing, rfl⟩ | ⟨rfl, ⟨hmissing, rfl⟩ | ⟨target, htarget, hmissing, rfl⟩⟩
        | ⟨rfl, htaken, rfl⟩
      · exact .localField hrelation hmissing
      · exact .target hrelation hmissing
      · exact .targetField hrelation htarget hmissing
      · exact .tableAlias hrelation htaken
  · intro h
    cases h with
    | view hblank => exact .inl (.inl ⟨rfl, hblank, rfl⟩)
    | defaultField hfield hmissing => exact .inl (.inr ⟨_, _, hfield, rfl, hmissing, rfl⟩)
    | localField hrelation hmissing => exact .inr ⟨_, _, hrelation, .inl ⟨rfl, hmissing, rfl⟩⟩
    | target hrelation hmissing => exact .inr ⟨_, _, hrelation, .inr (.inl ⟨rfl, .inl ⟨hmissing, rfl⟩⟩)⟩
    | targetField hrelation htarget hmissing =>
        exact .inr ⟨_, _, hrelation, .inr (.inl ⟨rfl, .inr ⟨_, htarget, hmissing, rfl⟩⟩)⟩
    | tableAlias hrelation htaken => exact .inr ⟨_, _, hrelation, .inr (.inr ⟨rfl, htaken, rfl⟩)⟩

/-- The report on a contract holds what is wrong at its places. -/
theorem mem_report_iff {c : Contract} {p : Place} {v : Violation} : (p, v) ∈ report c ↔ c.IsViolatedAt p v := by
  rw [report, mem_flatMap_zipIdx_iff]
  constructor
  · rintro ⟨i, ⟨name, r⟩, hresource, hmem⟩
    obtain ⟨⟨part, w⟩, hpart, heq⟩ := List.mem_map.1 hmem
    cases heq
    exact ⟨name, r, hresource, mem_resourceReport_iff.1 hpart⟩
  · rintro ⟨name, r, hresource, hpart⟩
    exact ⟨p.resource, (name, r), hresource, List.mem_map.2 ⟨(p.part, v), mem_resourceReport_iff.2 hpart, rfl⟩⟩

/-! ### Its order -/

/-- At most one thing is wrong at one place, so its report is in order. -/
theorem pairwise_placed {p : Part} {vs : List Violation} (h : vs.length ≤ 1) :
    (placed p vs).Pairwise fun a b => a.1.position < b.1.position := by
  match vs with
  | [] => exact .nil
  | [v] => exact List.pairwise_singleton _ _
  | v :: w :: rest =>
      rw [List.length_cons, List.length_cons] at h
      omega

theorem lt_of_mem_placed {p q : Part} {vs ws : List Violation} (h : p.position < q.position) :
    ∀ a ∈ placed p vs, ∀ b ∈ placed q ws, a.1.position < b.1.position := by
  rintro ⟨p', v⟩ hv ⟨q', w⟩ hw
  rw [(mem_placed_iff.1 hv).1, (mem_placed_iff.1 hw).1]
  exact h

theorem length_defaultViolation_le (name : String) (r : ResourceInfo) (field : String) :
    (defaultViolation name r field).length ≤ 1 := by
  unfold defaultViolation
  split <;> simp

theorem length_targetViolation_le (c : Contract) (name relation : String) (info : RelationInfo) :
    (targetViolation c name relation info).length ≤ 1 := by
  unfold targetViolation
  split
  · exact le_rfl
  · split <;> simp

theorem pairwise_relationReport (c : Contract) (name : String) (r : ResourceInfo) (e : (String × RelationInfo) × Nat) :
    (relationReport c name r e).Pairwise fun a b => a.1.position < b.1.position := by
  have hlocal : (localViolation name r e.1.1 e.1.2).length ≤ 1 := by
    unfold localViolation
    split <;> simp
  have halias : (aliasViolation name ([baseAlias] ++ aliasesOf (r.relations.entries.take e.2)) e.1.2).length ≤ 1 := by
    unfold aliasViolation
    split <;> simp
  have hsteps : (Part.localField e.2).position < (Part.target e.2).position
      ∧ (Part.localField e.2).position < (Part.tableAlias e.2).position
      ∧ (Part.target e.2).position < (Part.tableAlias e.2).position := by
    simp [Part.position, Prod.Lex.toLex_lt_toLex]
  rw [relationReport, List.pairwise_append, List.pairwise_append]
  refine ⟨⟨pairwise_placed hlocal, pairwise_placed (length_targetViolation_le c name e.1.1 e.1.2),
    lt_of_mem_placed hsteps.1⟩, pairwise_placed halias, ?_⟩
  intro a ha
  rcases List.mem_append.1 ha with ha | ha
  · exact lt_of_mem_placed hsteps.2.1 a ha
  · exact lt_of_mem_placed hsteps.2.2 a ha

/-- What is reported on a relation stands at the position of that relation. -/
theorem exists_position_of_mem_relationReport {c : Contract} {name : String} {r : ResourceInfo}
    {e : (String × RelationInfo) × Nat} {a : Part × Violation} (ha : a ∈ relationReport c name r e) :
    ∃ s, a.1.position = toLex (2, toLex (e.2, s)) := by
  rcases mem_relationReport_iff.1 ha with ⟨hpart, -⟩ | ⟨hpart, -⟩ | ⟨hpart, -⟩
  · exact ⟨0, by rw [hpart, Part.position]⟩
  · exact ⟨1, by rw [hpart, Part.position]⟩
  · exact ⟨2, by rw [hpart, Part.position]⟩

/-- The default fields are reported in their order. -/
theorem pairwise_defaultReport (name : String) (r : ResourceInfo) :
    (r.defaultSelect.zipIdx.flatMap fun e => placed (.defaultField e.2) (defaultViolation name r e.1)).Pairwise
      fun a b => a.1.position < b.1.position := by
  apply pairwise_flatMap_zipIdx
  · exact fun i field => pairwise_placed (length_defaultViolation_le name r field)
  · intro i j a b hij
    apply lt_of_mem_placed
    simp [Part.position, Prod.Lex.toLex_lt_toLex, hij]

/-- The relations are reported in their order. -/
theorem pairwise_flatMap_relationReport (c : Contract) (name : String) (r : ResourceInfo) :
    (r.relations.entries.zipIdx.flatMap (relationReport c name r)).Pairwise
      fun a b => a.1.position < b.1.position := by
  apply pairwise_flatMap_zipIdx
  · exact fun j e => pairwise_relationReport c name r (e, j)
  · intro i j e f hij a ha b hb
    obtain ⟨s, hs⟩ := exists_position_of_mem_relationReport ha
    obtain ⟨t, ht⟩ := exists_position_of_mem_relationReport hb
    rw [hs, ht]
    simp [Prod.Lex.toLex_lt_toLex, hij]

theorem pairwise_resourceReport (c : Contract) (name : String) (r : ResourceInfo) :
    (resourceReport c name r).Pairwise fun a b => a.1.position < b.1.position := by
  have hview : (viewViolations name r).length ≤ 1 := by
    unfold viewViolations
    split <;> simp
  rw [resourceReport, List.pairwise_append, List.pairwise_append]
  refine ⟨⟨pairwise_placed hview, pairwise_defaultReport name r, ?_⟩, pairwise_flatMap_relationReport c name r, ?_⟩
  · -- the view stands before the default fields
    rintro ⟨p, v⟩ hv ⟨q, w⟩ hw
    obtain ⟨i, field, -, hplaced⟩ := mem_flatMap_zipIdx_iff.1 hw
    rw [(mem_placed_iff.1 hv).1, (mem_placed_iff.1 hplaced).1]
    simp [Part.position, Prod.Lex.toLex_lt_toLex]
  · -- and both before the relations
    rintro ⟨p, v⟩ hv b hb
    obtain ⟨j, e, -, hmem⟩ := mem_flatMap_zipIdx_iff.1 hb
    obtain ⟨s, hs⟩ := exists_position_of_mem_relationReport hmem
    rw [hs]
    rcases List.mem_append.1 hv with hv | hv
    · rw [(mem_placed_iff.1 hv).1]
      simp [Part.position, Prod.Lex.toLex_lt_toLex]
    · obtain ⟨i, field, -, hplaced⟩ := mem_flatMap_zipIdx_iff.1 hv
      rw [(mem_placed_iff.1 hplaced).1]
      simp [Part.position, Prod.Lex.toLex_lt_toLex]

theorem pairwise_report (c : Contract) :
    (report c).Pairwise fun a b => a.1.position < b.1.position := by
  apply pairwise_flatMap_zipIdx
  · intro i e
    rw [List.pairwise_map]
    apply (pairwise_resourceReport c e.1 e.2).imp
    intro a b hab
    simp [Place.position, Prod.Lex.toLex_lt_toLex, hab]
  · intro i j e f hij a ha b hb
    obtain ⟨x, -, rfl⟩ := List.mem_map.1 ha
    obtain ⟨y, -, rfl⟩ := List.mem_map.1 hb
    simp [Place.position, Prod.Lex.toLex_lt_toLex, hij]

/-! ## The check -/

theorem isReport_violations (c : Contract) : IsReport c (violations c) :=
  ⟨report c, map_snd_report c, pairwise_report c, fun _ _ => mem_report_iff⟩

/-- A contract has one report only: its places and what is wrong there determine the list. -/
theorem IsReport.unique {c : Contract} {vs ws : List Violation} (hvs : IsReport c vs) (hws : IsReport c ws) :
    vs = ws := by
  obtain ⟨found, rfl, hfound, hmem⟩ := hvs
  obtain ⟨others, rfl, hothers, hmem'⟩ := hws
  -- places increase along a report, so none stands in it twice, and what it holds is known
  have hnodup {l : List (Place × Violation)} (h : l.Pairwise fun a b => a.1.position < b.1.position) : l.Nodup :=
    h.imp fun hab heq => absurd hab (by rw [heq]; exact lt_irrefl _)
  have hperm : found.Perm others := by
    rw [List.perm_ext_iff_of_nodup (hnodup hfound) (hnodup hothers)]
    rintro ⟨p, v⟩
    rw [hmem, hmem']
  rw [hperm.eq_of_pairwise (fun a b _ _ hab hba => absurd hab (lt_asymm hba)) hfound hothers]

/-- The check accepts exactly the contracts whose resources are all consistent. Otherwise it gives what is wrong, each
thing once and in the order of declaration, and never nothing. -/
theorem check_reports (c : Contract) :
    (check c = .ok () ↔ ∀ e ∈ c.resources.entries, e.2.IsConsistent c)
      ∧ ∀ vs, check c = .error vs ↔ vs ≠ [] ∧ IsReport c vs := by
  refine ⟨check_eq_ok_iff c, fun vs => ?_⟩
  have herror : check c = .error vs ↔ vs ≠ [] ∧ vs = violations c := by
    unfold check
    cases violations c with
    | nil => simp
    | cons v rest =>
        constructor
        · intro h
          cases h
          exact ⟨List.cons_ne_nil v rest, rfl⟩
        · rintro ⟨-, rfl⟩
          rfl
  rw [herror]
  apply and_congr_right
  intro _
  constructor
  · rintro rfl
    exact isReport_violations c
  · intro hreport
    exact hreport.unique (isReport_violations c)

/-- A blank view, a default field that is missing twice, a relation without its field and its target under the alias of
the base, one to a field that is missing, and one under the alias of that one. -/
example :
    check ⟨.ofList [("Book", { Library.book with
      view := " "
      defaultSelect := ["price", "id", "price"]
      relations := .ofList [("Brand", ⟨.left, "brand", "Brand", "id", "t"⟩),
        ("Shelf", ⟨.inner, "shelf", "Book", "room", "s"⟩), ("Sequel", ⟨.left, "sequel", "Book", "id", "s"⟩)] })]⟩ =
      .error [.emptyView "Book", .unknownDefaultField "Book" "price", .unknownDefaultField "Book" "price",
        .unknownLocalField "Book" "Brand" "brand", .unknownTarget "Book" "Brand" "Brand", .repeatedAlias "Book" "t",
        .unknownTargetField "Shelf" "Book" "room", .repeatedAlias "Book" "s"] := rfl

end QueryGate.Contract
