import QueryGate.Plan.FieldRef
/-!
How references are read from text. Exactly one dot separates a relation from a field; a text with no dot or with several
is the name of a field of the base as a whole. So a reference that was read is read again from its text, and the name of
a field is read as this field of the base unless it has exactly one dot.

The text of a reference is the one it was read from, with one exception: a dot with nothing before it says no more than
the name behind it, and is not written again. Up to such a dot no two texts stand for one reference.
-/
set_option autoImplicit false

namespace QueryGate.Plan

/-- Exactly one dot has something without dots on either side of it. -/
theorem exists_append_of_count {text : String} (h : text.toList.count '.' = 1) :
    ∃ relation field : String, text = relation ++ "." ++ field ∧ '.' ∉ relation.toList ∧ '.' ∉ field.toList := by
  have hmem : '.' ∈ text.toList := List.count_pos_iff.1 (by omega)
  obtain ⟨relation, field, hsplit⟩ := List.append_of_mem hmem
  rw [hsplit, List.count_append, List.count_cons_self] at h
  refine ⟨.ofList relation, .ofList field, ?_, ?_, ?_⟩
  · rw [← String.toList_inj, hsplit]
    simp
  · rw [String.toList_ofList]
    exact List.count_eq_zero.1 (by omega)
  · rw [String.toList_ofList]
    exact List.count_eq_zero.1 (by omega)

namespace FieldRef

/-! ## Reading -/

/-- The reference that a text stands for. -/
inductive StandsFor : String → FieldRef → Prop where
  /-- Without a dot, or with several, the whole text is the name of a field of the base. -/
  | whole {text : String} (dots : text.toList.count '.' ≠ 1) : StandsFor text ⟨none, text⟩
  /-- Behind a dot with nothing before it stands the name of a field of the base. -/
  | behindDot {field : String} (plain : '.' ∉ field.toList) : StandsFor ("." ++ field) ⟨none, field⟩
  /-- Otherwise the dot stands between the relation and the field. -/
  | qualified {relation field : String} (named : relation ≠ "") (relation_plain : '.' ∉ relation.toList)
    (field_plain : '.' ∉ field.toList) : StandsFor (relation ++ "." ++ field) ⟨some relation, field⟩

/-- What stands before the only dot of a text is read as the relation, and what stands after it as the field. -/
theorem ofText_append {relation field : String} (hrelation : '.' ∉ relation.toList) (hfield : '.' ∉ field.toList) :
    ofText (relation ++ "." ++ field) = ⟨if relation = "" then none else some relation, field⟩ := by
  have htext : (relation ++ "." ++ field).toList = relation.toList ++ '.' :: field.toList := by simp
  have hcount : (relation.toList ++ '.' :: field.toList).count '.' = 1 := by
    rw [List.count_append, List.count_cons_self, List.count_eq_zero.2 hrelation, List.count_eq_zero.2 hfield]
  -- the search for the dot passes the whole relation and stops behind it
  have hplain : ∀ c ∈ relation.toList, decide (c ≠ '.') = true := by
    intro c hc
    exact decide_eq_true fun heq => hrelation (heq ▸ hc)
  have htake : (relation.toList ++ '.' :: field.toList).takeWhile (· ≠ '.') = relation.toList := by
    rw [List.takeWhile_append_of_pos hplain]
    simp
  have hdrop : (relation.toList ++ '.' :: field.toList).dropWhile (· ≠ '.') = '.' :: field.toList := by
    rw [List.dropWhile_append_of_pos hplain]
    simp
  simp only [ofText, htext, if_pos hcount, htake, hdrop, List.drop_succ_cons, List.drop_zero, String.ofList_toList,
    List.isEmpty_iff, String.toList_eq_nil_iff]

/-- A text that does not have exactly one dot is read as a field of the base. -/
theorem ofText_of_count_ne {text : String} (h : text.toList.count '.' ≠ 1) : ofText text = ⟨none, text⟩ := by
  rw [ofText, if_neg h]

theorem StandsFor.ofText_eq {text : String} {r : FieldRef} (h : StandsFor text r) : ofText text = r := by
  cases h with
  | whole dots => exact ofText_of_count_ne dots
  | behindDot plain =>
      have hblank : '.' ∉ "".toList := by decide
      have hread := ofText_append hblank plain
      rwa [String.empty_append, if_pos rfl] at hread
  | qualified named relation_plain field_plain => rw [ofText_append relation_plain field_plain, if_neg named]

theorem standsFor_ofText (text : String) : StandsFor text (ofText text) := by
  by_cases hcount : text.toList.count '.' = 1
  · obtain ⟨relation, field, rfl, hrelation, hfield⟩ := exists_append_of_count hcount
    rw [ofText_append hrelation hfield]
    by_cases hnamed : relation = ""
    · subst hnamed
      rw [String.empty_append, if_pos rfl]
      exact .behindDot hfield
    · rw [if_neg hnamed]
      exact .qualified hnamed hrelation hfield
  · rw [ofText_of_count_ne hcount]
    exact .whole hcount

/-- A text is read as the reference that it stands for. -/
theorem ofText_eq_iff {text : String} {r : FieldRef} : ofText text = r ↔ StandsFor text r :=
  ⟨fun h => h ▸ standsFor_ofText text, StandsFor.ofText_eq⟩

example : ofText "Category.name" = ⟨some "Category", "name"⟩ := by decide

/-- The name of a field is read as a reference to this field of the base exactly if it does not have exactly one dot. -/
theorem ofText_eq_unqualified_iff (name : String) : ofText name = ⟨none, name⟩ ↔ name.toList.count '.' ≠ 1 := by
  constructor
  · intro hread hcount
    obtain ⟨relation, field, rfl, hrelation, hfield⟩ := exists_append_of_count hcount
    rw [ofText_append hrelation hfield, FieldRef.mk.injEq] at hread
    -- what is read as the field stands behind the dot, so it is shorter than the name
    have hlength := congrArg String.length hread.2
    simp only [String.length_append] at hlength
    have hdot : ".".length = 1 := rfl
    omega
  · exact ofText_of_count_ne

/-! ## Reading what was written -/

/-- A text is the name of a field without dots, behind a dot that says nothing. -/
def IsDotted (text name : String) : Prop := text = "." ++ name ∧ '.' ∉ name.toList

theorem count_ne_one_of_not_mem {name : String} (h : '.' ∉ name.toList) : name.toList.count '.' ≠ 1 := by
  rw [List.count_eq_zero.2 h]
  decide

/-- A text without dots stands for the same reference with a dot in front of it. -/
theorem IsDotted.ofText_eq {text name : String} (h : IsDotted text name) : ofText text = ofText name := by
  obtain ⟨rfl, hname⟩ := h
  rw [ofText_of_count_ne (count_ne_one_of_not_mem hname)]
  exact (StandsFor.behindDot hname).ofText_eq

theorem IsDotted.ne {text name : String} (h : IsDotted text name) : text ≠ name := by
  rintro rfl
  have hlength := congrArg String.length h.1
  simp [String.length_append] at hlength

/-- The text of a reference is the one that stands for it, but for a dot that says nothing. -/
theorem StandsFor.toText_eq_or {text : String} {r : FieldRef} (h : StandsFor text r) :
    r.toText = text ∨ IsDotted text r.toText := by
  cases h with
  | whole _ => exact .inl rfl
  | behindDot plain => exact .inr ⟨rfl, plain⟩
  | qualified _ _ _ => exact .inl rfl

/-- A reference that was read is read again from its text. -/
theorem ofText_toText_ofText (text : String) : ofText (ofText text).toText = ofText text := by
  rcases (standsFor_ofText text).toText_eq_or with hsame | hdotted
  · rw [hsame]
  · exact hdotted.ofText_eq.symm

/-- Behind a dot that says nothing the name alone is written. -/
theorem IsDotted.toText_eq {text name : String} (h : IsDotted text name) : (ofText text).toText = name := by
  obtain ⟨rfl, hname⟩ := h
  rw [(StandsFor.behindDot hname).ofText_eq]
  rfl

/-- Texts that stand for one reference are the same, but for a dot in one of them that says nothing. -/
theorem eq_or_isDotted_of_ofText_eq {text other : String} (h : ofText text = ofText other) :
    text = other ∨ IsDotted text other ∨ IsDotted other text := by
  have htext := (standsFor_ofText text).toText_eq_or
  have hother := (standsFor_ofText other).toText_eq_or
  rw [← h] at hother
  rcases htext with hsame | hdotted
  · rw [hsame] at hother
    rcases hother with hother | hother
    · exact .inl hother
    · exact .inr (.inr hother)
  · rcases hother with hother | hother
    · exact .inr (.inl (hother ▸ hdotted))
    · -- both have the dot in front of the same name
      exact .inl (hdotted.1.trans hother.1.symm)

/-- A text is read as the reference that it stands for, and that reference is read again from its own text. This is the
text it was read from, except that a dot in front of a text without dots is lost; and only up to such a dot do two texts
stand for one reference. -/
theorem text_identifies_reference (text other : String) :
    StandsFor text (ofText text)
      ∧ ofText (ofText text).toText = ofText text
      ∧ ((ofText text).toText = text ↔ ¬∃ name, IsDotted text name)
      ∧ (∀ name, IsDotted text name → (ofText text).toText = name)
      ∧ (ofText text = ofText other ↔ text = other ∨ IsDotted text other ∨ IsDotted other text) := by
  refine ⟨standsFor_ofText text, ofText_toText_ofText text, ?_, fun name hname => hname.toText_eq, ?_⟩
  · constructor
    · rintro hsame ⟨name, hname⟩
      exact hname.ne (hsame.symm.trans hname.toText_eq)
    · intro hnone
      exact (standsFor_ofText text).toText_eq_or.resolve_right fun hdotted => hnone ⟨_, hdotted⟩
  · constructor
    · exact eq_or_isDotted_of_ofText_eq
    · rintro (rfl | hdotted | hdotted)
      · rfl
      · exact hdotted.ofText_eq
      · exact hdotted.ofText_eq.symm

/-- The dot of `.id` is lost, and none of those of `..id`: the first text stands for the field `id`, and the second one
for a field of its own name. -/
theorem text_identifies_reference_id :
    IsDotted ".id" "id" ∧ (ofText ".id").toText = "id" ∧ ofText ".id" = ofText "id"
      ∧ (∀ name, ¬IsDotted "..id" name) ∧ StandsFor "..id" ⟨none, "..id"⟩ := by
  have hdotted : IsDotted ".id" "id" := ⟨rfl, by decide⟩
  obtain ⟨-, -, -, hlost, hsame⟩ := text_identifies_reference ".id" "id"
  obtain ⟨hread, -, hkept, -⟩ := text_identifies_reference "..id" "id"
  exact ⟨hdotted, hlost "id" hdotted, hsame.2 (.inr (.inl hdotted)), not_exists.1 (hkept.1 rfl), hread⟩

end FieldRef

end QueryGate.Plan
