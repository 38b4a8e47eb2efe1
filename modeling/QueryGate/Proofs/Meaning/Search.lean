import QueryGate.Proofs.Compile.Typing
import QueryGate.Proofs.Meaning.Agreement
import QueryGate.Proofs.Meaning.Like
import QueryGate.Proofs.Text.LowerCase
/-!
Filters that search for a text. The value of such a filter goes into a pattern as it is, with a percent sign after it
and, for texts that may stand anywhere, one before it. So the rows that are found are those in which the value stands,
in any case, exactly if the value has no percent sign, no underscore and no backslash in it; otherwise it is itself read
as a pattern, and a backslash at its end belongs to the percent sign that comes after it.
-/
set_option autoImplicit false

namespace QueryGate.Meaning

open Json Plan Statement Compile

/-! ## Cases -/

/-- How texts are brought into one case, character by character. The signs of patterns have no case, and nothing but a
sign is brought into one. -/
structure CaseRule where
  fold : Char → List Char
  fold_ne_nil : ∀ c, fold c ≠ []
  fold_sign : ∀ c, isSign c = true → fold c = [c]
  isPlain_fold : ∀ c, isSign c = false → isPlain (fold c) = true

namespace CaseRule

/-- The lower cases of other characters stand behind the signs. -/
theorem signs_lt_lowerCase : Text.caseRuns.all (fun r => decide ((0x5f : Int) < r.first + r.shift)) = true := by
  decide +kernel

/-- The signs are characters of the first block. -/
theorem toNat_of_isSign {c : Char} (h : isSign c = true) : 0 < c.toNat ∧ c.toNat ≤ 0x5f := by
  simp only [isSign, Bool.or_eq_true, decide_eq_true_eq] at h
  rcases h with (rfl | rfl) | rfl <;> decide

/-- The lower case of another character is no sign. -/
theorem isSign_ofNat {r : Text.CaseRun} (hr : r ∈ Text.caseRuns) {code : Nat} (hcode : r.first ≤ code) :
    isSign (Char.ofNat ((code : Int) + r.shift).toNat) = false := by
  have hbeyond := of_decide_eq_true (List.all_eq_true.1 signs_lt_lowerCase r hr)
  rcases Text.toNat_ofNat_cases ((code : Int) + r.shift).toNat with htarget | hfirst
  · rw [← Bool.not_eq_true]
    intro hsign
    have hbounds := toNat_of_isSign hsign
    omega
  · -- a number that is no code leads to the first character, which is no sign either
    rw [hfirst]
    decide

/-- The rule by which texts are compared in lower case. -/
def lowerCase : CaseRule where
  fold := Text.lowerChar
  fold_ne_nil := by
    intro c
    simp only [Text.lowerChar]
    split
    · simp
    · split <;> simp
  fold_sign := by
    intro c h
    simp only [isSign, Bool.or_eq_true, decide_eq_true_eq] at h
    rcases h with (rfl | rfl) | rfl <;> rfl
  isPlain_fold := by
    intro c h
    simp only [Text.lowerChar]
    split
    · decide
    · split
      · rename_i r hfound
        have hmatch := List.find?_some hfound
        simp only [Bool.and_eq_true, decide_eq_true_eq] at hmatch
        simp [isPlain, isSign_ofNat (List.mem_of_find?_eq_some hfound) hmatch.1.1]
      · simp [isPlain, h]

variable (rule : CaseRule)

/-- A text in the case in which texts are compared. -/
def form (text : List Char) : List Char := text.flatMap rule.fold

theorem form_cons (c : Char) (rest : List Char) : rule.form (c :: rest) = rule.fold c ++ rule.form rest :=
  List.flatMap_cons

theorem form_append (front back : List Char) : rule.form (front ++ back) = rule.form front ++ rule.form back :=
  List.flatMap_append

/-- A sign stays what it is. -/
theorem form_sign {c : Char} (h : isSign c = true) : rule.form [c] = [c] := by
  rw [form_cons, rule.fold_sign c h]
  rfl

/-- Neither are signs lost nor do they come up. -/
theorem isPlain_form (text : List Char) : isPlain (rule.form text) = isPlain text := by
  induction text with
  | nil => rfl
  | cons c rest ih =>
      rw [form_cons, isPlain_append, ih, isPlain_cons]
      cases hsign : isSign c with
      | false => rw [rule.isPlain_fold c hsign]; rfl
      | true => rw [rule.fold_sign c hsign]; simp [isPlain, hsign]

/-! ## Patterns in one case -/

/-- A part of a pattern in one case. -/
def formOf : PatternPart → List PatternPart
  | .exactly c => (rule.fold c).map .exactly
  | part => [part]

/-- A character that is no sign is one in no case. -/
theorem partsOf?_fold_append {c : Char} (h : isSign c = false) (rest : List Char) :
    partsOf? (rule.fold c ++ rest) = (partsOf? rest).map ((rule.fold c).map .exactly ++ ·) :=
  partsOf?_append (partsOf?_of_isPlain (rule.isPlain_fold c h)) rest

/-- A backslash takes the first character of a form, and the others are no signs. -/
theorem partsOf?_escaped_fold_append {c : Char} (h : isSign c = false) (rest : List Char) :
    partsOf? ('\\' :: rule.fold c ++ rest) = (partsOf? rest).map ((rule.fold c).map .exactly ++ ·) := by
  have hplain := rule.isPlain_fold c h
  cases hform : rule.fold c with
  | nil => exact absurd hform (rule.fold_ne_nil c)
  | cons d more =>
      rw [hform, isPlain_cons, Bool.and_eq_true] at hplain
      have hmore := partsOf?_append (partsOf?_of_isPlain hplain.2) rest
      have hwhole := (Spells.escaped d).partsOf?_append (more ++ rest)
      rw [hmore, Option.map_map] at hwhole
      exact hwhole

/-- In one case a part is written as its form. -/
theorem partsOf?_form_append {part : PatternPart} {text : List Char} (h : Spells part text) (rest : List Char) :
    partsOf? (rule.form text ++ rest) = (partsOf? rest).map (rule.formOf part ++ ·) := by
  cases h with
  | anything =>
      rw [rule.form_sign rfl]
      exact Spells.anything.partsOf?_append rest
  | anyOne =>
      rw [rule.form_sign rfl]
      exact Spells.anyOne.partsOf?_append rest
  | escaped c =>
      rw [form_cons, rule.fold_sign _ rfl, form, List.flatMap_singleton]
      cases hsign : isSign c with
      | true =>
          rw [formOf, rule.fold_sign c hsign]
          exact (Spells.escaped c).partsOf?_append rest
      | false => exact rule.partsOf?_escaped_fold_append hsign rest
  | plain c no_sign =>
      rw [form, List.flatMap_singleton]
      exact rule.partsOf?_fold_append no_sign rest

/-- A pattern in one case has the forms of its parts. -/
theorem partsOf?_form (pattern : List Char) :
    partsOf? (rule.form pattern) = (partsOf? pattern).map (·.flatMap rule.formOf) := by
  induction pattern using pattern_induction with
  | nil => rfl
  | backslash =>
      rw [rule.form_sign rfl]
      rfl
  | part hspelled rest ih =>
      rw [form_append, rule.partsOf?_form_append hspelled, ih, hspelled.partsOf?_append, Option.map_map,
        Option.map_map]
      simp only [Function.comp_def, List.flatMap_cons]

theorem isSome_partsOf?_form (pattern : List Char) :
    (partsOf? (rule.form pattern)).isSome = (partsOf? pattern).isSome := by
  rw [partsOf?_form, Option.isSome_map]

/-- The sample of a pattern in one case is the sample of the pattern, in that case. -/
theorem sample_form (parts : List PatternPart) :
    (parts.flatMap rule.formOf).flatMap PatternPart.sample = rule.form (parts.flatMap PatternPart.sample) := by
  have hpart (part : PatternPart) : (rule.formOf part).flatMap PatternPart.sample = rule.form part.sample := by
    cases part with
    | anything => rfl
    | anyOne => exact (rule.form_sign rfl).symm
    | exactly c => simp [formOf, PatternPart.sample, form, List.flatMap_map]
  simp only [form, List.flatMap_assoc]
  exact congrArg parts.flatMap (funext hpart)

/-! ## Which values are found -/

/-- A value with a sign in it has a text that matches its patterns and in which it does not stand. -/
theorem exists_text_of_sign {v : List Char} (h : isPlain v = false) :
    ∃ text, isLike (rule.form text) (rule.form v ++ ['%']) = true
      ∧ isLike (rule.form text) ('%' :: (rule.form v ++ ['%'])) = true ∧ ¬rule.form v <:+: rule.form text := by
  have hpercent : rule.form v ++ ['%'] = rule.form (v ++ ['%']) := by rw [form_append, rule.form_sign rfl]
  obtain ⟨parts, hparts⟩ := Option.isSome_iff_exists.1 (isSome_partsOf?_append_percent v)
  have hform := rule.partsOf?_form (v ++ ['%'])
  rw [hparts, Option.map_some, ← hpercent] at hform
  have hlike : isLike (rule.form (parts.flatMap PatternPart.sample)) (rule.form v ++ ['%']) = true := by
    rw [isLike_eq_covers hform, ← sample_form]
    exact covers_flatMap_sample _
  obtain ⟨hlength, hplain⟩ := sample_append_percent hform
  rw [sample_form] at hlength hplain
  refine ⟨parts.flatMap PatternPart.sample, hlike, (isLike_percent_cons_iff _ _).2 ⟨_, List.suffix_rfl, hlike⟩, ?_⟩
  intro hinfix
  -- a text that is no longer than the value holds it only if it is the value
  have hsame := hinfix.eq_of_length (Nat.le_antisymm hinfix.length_le hlength)
  rw [isPlain_form, h] at hplain
  cases hplain hsame.symm

/-- What begins with a value are the texts that match its pattern exactly if the value has no signs. -/
theorem isLike_startsWith_iff (v : List Char) :
    (∀ text, isLike (rule.form text) (rule.form v ++ ['%']) = true ↔ rule.form v <+: rule.form text) ↔
      isPlain v = true := by
  constructor
  · intro hmatches
    rw [← Bool.not_eq_false]
    intro hsign
    obtain ⟨text, hlike, -, hnot⟩ := rule.exists_text_of_sign hsign
    exact hnot ((hmatches text).1 hlike).isInfix
  · intro hplain text
    have hform : isPlain (rule.form v) = true := by rw [isPlain_form, hplain]
    rw [isLike_append_percent_iff (by rw [partsOf?_of_isPlain hform]; rfl)]
    simp only [isLike_iff_of_isPlain hform, exists_eq_right']

/-- Where a value stands somewhere are the texts that match its pattern exactly if the value has no signs. -/
theorem isLike_contains_iff (v : List Char) :
    (∀ text, isLike (rule.form text) ('%' :: (rule.form v ++ ['%'])) = true ↔ rule.form v <:+: rule.form text) ↔
      isPlain v = true := by
  constructor
  · intro hmatches
    rw [← Bool.not_eq_false]
    intro hsign
    obtain ⟨text, -, hlike, hnot⟩ := rule.exists_text_of_sign hsign
    exact hnot ((hmatches text).1 hlike)
  · intro hplain text
    have hform : isPlain (rule.form v) = true := by rw [isPlain_form, hplain]
    rw [isLike_between_percents_iff (by rw [partsOf?_of_isPlain hform]; rfl)]
    simp only [isLike_iff_of_isPlain hform, exists_eq_right']

end CaseRule

/-! ## Filters -/

section Filters

variable {V : Type} {db : Database V} {rule : CaseRule}

/-- A database compares texts with patterns in the case of a rule. -/
def ComparesPatterns (db : Database V) (rule : CaseRule) : Prop :=
  ∀ text pattern : String, db.compare .like (db.text text) (db.text pattern) =
    .ofBool (isLike (rule.form text.toList) (rule.form pattern.toList))

/-- A filter finds the rows in whose column certain texts stand, and no other rows that have a text there. -/
def Finds (db : Database V) (s : Scope) (p : Predicate) (found : List Char → Prop) : Prop :=
  ∀ (env : Env V) (text : String), value db env (s.column p.field) = .single (some (db.text text)) →
    (isTrueOn db (predicateCondition s p) env = true ↔ found text.toList)

/-- A filter that compares its column with a pattern finds the texts that match the pattern. -/
theorem finds_iff (hcompares : ComparesPatterns db rule) (s : Scope) {p : Predicate} {pattern : String}
    (hholds : ∀ type x, db.holds type x p.value p.comparison = db.compareValues .like x (db.pattern pattern))
    (found : List Char → Prop) :
    Finds db s p found ↔ ∀ text, isLike (rule.form text) (rule.form pattern.toList) = true ↔ found text := by
  have htrue {env : Env V} {text : String} (hcolumn : value db env (s.column p.field) = .single (some (db.text text))) :
      isTrueOn db (predicateCondition s p) env = isLike (rule.form text.toList) (rule.form pattern.toList) := by
    rw [isTrueOn, predicateCondition, truthOf_comparisonCondition db hcolumn, hholds, Database.pattern,
      Database.compareValues, hcompares]
    cases isLike (rule.form text.toList) (rule.form pattern.toList) <;> rfl
  constructor
  · intro hfinds text
    -- there is a row with any text in the column
    have hcolumn : value db [(s.aliases.aliasFor p.field, fun _ => some (db.text (.ofList text)))] (s.column p.field) =
        .single (some (db.text (.ofList text))) := by
      simp [Scope.column, value]
    have hfound := hfinds _ _ hcolumn
    rw [htrue hcolumn, String.toList_ofList] at hfound
    exact hfound
  · intro hmatches env text hcolumn
    rw [htrue hcolumn]
    exact hmatches text.toList

theorem finds_contains_iff (hcompares : ComparesPatterns db rule) (s : Scope) (field : FieldRef) (v : String)
    (found : List Char → Prop) :
    Finds db s ⟨field, .contains, .string v⟩ found ↔
      ∀ text, isLike (rule.form text) ('%' :: (rule.form v.toList ++ ['%'])) = true ↔ found text := by
  have hpercent : rule.form "%".toList = ['%'] := rule.form_sign rfl
  have hpattern : rule.form ("%" ++ v ++ "%").toList = '%' :: (rule.form v.toList ++ ['%']) := by
    rw [String.toList_append, String.toList_append, rule.form_append, rule.form_append, hpercent]
    rfl
  rw [finds_iff hcompares s (fun _ _ => rfl), Database.searchText, hpattern]

theorem finds_startsWith_iff (hcompares : ComparesPatterns db rule) (s : Scope) (field : FieldRef) (v : String)
    (found : List Char → Prop) :
    Finds db s ⟨field, .startsWith, .string v⟩ found ↔
      ∀ text, isLike (rule.form text) (rule.form v.toList ++ ['%']) = true ↔ found text := by
  have hpercent : rule.form "%".toList = ['%'] := rule.form_sign rfl
  have hpattern : rule.form (v ++ "%").toList = rule.form v.toList ++ ['%'] := by
    rw [String.toList_append, rule.form_append, hpercent]
  rw [finds_iff hcompares s (fun _ _ => rfl), Database.searchText, hpattern]

end Filters

/-- A filter for texts that contain a value finds the texts in which it stands in any case, and one for texts that start
with it finds those that begin so, exactly if the value has none of the three signs. Any other value is a pattern for
what has to stand there. If it ends in a backslash to which no character belongs, the backslash takes the percent sign
after the value: then what the rest is a pattern for has to be followed by a percent sign, and nothing after that. -/
theorem finds_value_iff_isPlain {V : Type} (db : Database V) (rule : CaseRule) (hcompares : ComparesPatterns db rule)
    (s : Scope) (field : FieldRef) (v : String) :
    (Finds db s ⟨field, .contains, .string v⟩ (fun text => rule.form v.toList <:+: rule.form text) ↔
        isPlain v.toList = true)
      ∧ (Finds db s ⟨field, .startsWith, .string v⟩ (fun text => rule.form v.toList <+: rule.form text) ↔
        isPlain v.toList = true)
      ∧ ((partsOf? v.toList).isSome = true →
        Finds db s ⟨field, .contains, .string v⟩ (fun text =>
            ∃ part, part <:+: rule.form text ∧ isLike part (rule.form v.toList) = true)
          ∧ Finds db s ⟨field, .startsWith, .string v⟩ fun text =>
            ∃ start, start <+: rule.form text ∧ isLike start (rule.form v.toList) = true)
      ∧ ∀ front : String, v = front ++ "\\" → (partsOf? front.toList).isSome = true →
        Finds db s ⟨field, .contains, .string v⟩ (fun text =>
            ∃ part, part ++ ['%'] <:+ rule.form text ∧ isLike part (rule.form front.toList) = true)
          ∧ Finds db s ⟨field, .startsWith, .string v⟩ fun text =>
            ∃ start, start ++ ['%'] = rule.form text ∧ isLike start (rule.form front.toList) = true := by
  simp only [finds_contains_iff hcompares, finds_startsWith_iff hcompares]
  refine ⟨rule.isLike_contains_iff v.toList, rule.isLike_startsWith_iff v.toList, ?_, ?_⟩
  · intro hpattern
    rw [← rule.isSome_partsOf?_form] at hpattern
    exact ⟨fun text => isLike_between_percents_iff hpattern _, fun text => isLike_append_percent_iff hpattern _⟩
  · rintro front rfl hpattern
    rw [← rule.isSome_partsOf?_form] at hpattern
    have hbackslash : rule.form "\\".toList = ['\\'] := rule.form_sign rfl
    have hform : rule.form (front ++ "\\").toList ++ ['%'] = rule.form front.toList ++ ['\\', '%'] := by
      rw [String.toList_append, rule.form_append, hbackslash, List.append_assoc]
      rfl
    have hstarts (text : List Char) := isLike_backslash_percent_iff hpattern (rule.form text)
    rw [hform]
    refine ⟨fun text => ?_, hstarts⟩
    simp only [isLike_percent_cons_iff, isLike_backslash_percent_iff hpattern]
    constructor
    · rintro ⟨_, hsuffix, part, rfl, hlike⟩
      exact ⟨part, hsuffix, hlike⟩
    · rintro ⟨part, hsuffix, hlike⟩
      exact ⟨_, hsuffix, part, rfl, hlike⟩

/-- The texts of a library, compared with patterns in lower case. -/
def libraryTexts : Database String :=
  { libraryRows with
    compare := fun operator a b =>
      match operator with
      | .like => .ofBool (isLike (CaseRule.lowerCase.form a.toList) (CaseRule.lowerCase.form b.toList))
      | operator => libraryRows.compare operator a b }

/-- A plan for books that searches for a text in the rooms of their shelves. -/
def roomSearch (op text : String) : Json.Value :=
  shelvedBooksWhere [.object [("field", .string "Shelf.room"), ("op", .string op), ("value", .string text)]]

/-- A filter for rooms. -/
def roomFilter (comparison : Comparison) (text : String) : Predicate := ⟨⟨some "Shelf", "room"⟩, comparison, .string text⟩

/-- A search for `Attic` finds the rooms that have this word in them, in any case. One for what starts with `50%` does
not find just the rooms that do. -/
theorem finds_attic_and_percent :
    ComparesPatterns libraryTexts .lowerCase
      ∧ (∃ plan query,
        compileValue (.ofContract Contract.Library.contract) (roomSearch "contains" "Attic") = .ok (plan, query)
          ∧ plan.filters = [roomFilter .contains "Attic"]
          ∧ Finds libraryTexts (scopeOf Contract.Library.contract Contract.Library.book plan)
            (roomFilter .contains "Attic") fun text => "attic".toList <:+: CaseRule.lowerCase.form text)
      ∧ ∃ plan query,
        compileValue (.ofContract Contract.Library.contract) (roomSearch "starts_with" "50%") = .ok (plan, query)
          ∧ plan.filters = [roomFilter .startsWith "50%"]
          ∧ ¬Finds libraryTexts (scopeOf Contract.Library.contract Contract.Library.book plan)
            (roomFilter .startsWith "50%") fun text => "50%".toList <+: CaseRule.lowerCase.form text := by
  have hcompares : ComparesPatterns libraryTexts .lowerCase := fun _ _ => rfl
  refine ⟨hcompares, ?_, ?_⟩
  · have hcompiled : ∃ plan query,
        compileValue (.ofContract Contract.Library.contract) (roomSearch "contains" "Attic") = .ok (plan, query)
          ∧ plan.filters = [roomFilter .contains "Attic"] := ⟨_, _, rfl, rfl⟩
    obtain ⟨plan, query, hquery, hfilters⟩ := hcompiled
    exact ⟨plan, query, hquery, hfilters,
      (finds_value_iff_isPlain libraryTexts .lowerCase hcompares _ _ "Attic").1.2 rfl⟩
  · have hcompiled : ∃ plan query,
        compileValue (.ofContract Contract.Library.contract) (roomSearch "starts_with" "50%") = .ok (plan, query)
          ∧ plan.filters = [roomFilter .startsWith "50%"] := ⟨_, _, rfl, rfl⟩
    obtain ⟨plan, query, hquery, hfilters⟩ := hcompiled
    refine ⟨plan, query, hquery, hfilters, ?_⟩
    intro hfinds
    have hplain := (finds_value_iff_isPlain libraryTexts .lowerCase hcompares _ _ "50%").2.1.1 hfinds
    cases hplain

/-- A search for `50%` finds a room with another number, in which this text does not stand. -/
theorem isTrueOn_percentSearch :
    ∃ plan query, compileValue (.ofContract Contract.Library.contract) (roomSearch "contains" "50%") = .ok (plan, query)
      ∧ query.select.condition = .binary (.column "s" "room") .like (.parameter (.string "%50%%"))
      ∧ isTrueOn libraryTexts query.select.condition [("s", fun _ => some "Room 500")] = true
      ∧ ¬CaseRule.lowerCase.form "50%".toList <:+: CaseRule.lowerCase.form "Room 500".toList := by
  refine ⟨_, _, rfl, rfl, ?_, ?_⟩
  · decide +kernel
  · decide +kernel

end QueryGate.Meaning
