import QueryGate.Compile.AliasMap
import QueryGate.Proofs.NameTable
/-!
Which aliases a table knows. The base is entered first and the relations after it, all in one table under their names,
so that a name leads to the alias that was entered last under it. A reference through a relation that was entered is
read from that alias, and every other reference from the base alias, which is a constant and is not looked up.

The base alias is known as long as nothing else is entered under the name of the base. A relation of that name, which a
contract that passes its check may declare, takes the place of the base: the base alias is handed out as before, but the
table no longer knows it.
-/
set_option autoImplicit false

namespace QueryGate.Compile

open Plan

namespace AliasMap

/-! ## What is entered -/

/-- The alias that was entered last under a name. -/
def IsLastAlias (inserts : List (String × String)) (name tableAlias : String) : Prop :=
  ∃ before after, inserts = before ++ (name, tableAlias) :: after ∧ name ∉ after.map Prod.fst

/-- The alias that a reference is read from after some aliases were entered. -/
inductive IsReadFrom (inserts : List (String × String)) : FieldRef → String → Prop where
  | base {field : String} : IsReadFrom inserts ⟨none, field⟩ Contract.baseAlias
  | relation {relation field tableAlias : String} (last : IsLastAlias inserts relation tableAlias) :
    IsReadFrom inserts ⟨some relation, field⟩ tableAlias
  | fallback {relation field : String} (unknown : relation ∉ inserts.map Prod.fst) :
    IsReadFrom inserts ⟨some relation, field⟩ Contract.baseAlias

/-- The base alias stands under some name: nothing took the place of the base, or what was entered last under a name is
the base alias as well. -/
def KnowsBase (base : String) (inserts : List (String × String)) : Prop :=
  base ∉ inserts.map Prod.fst ∨ ∃ name, IsLastAlias inserts name Contract.baseAlias

/-- The aliases with some more entered one after the other. -/
def insertAll (m : AliasMap) (inserts : List (String × String)) : AliasMap :=
  inserts.foldl (fun m e => m.insert e.1 e.2) m

/-! ## Where names lead -/

section Names

variable {inserts : List (String × String)} {name tableAlias : String}

/-- The last alias under a name is one of the later ones, or else the first one, if its name does not come again. -/
theorem isLastAlias_cons_iff {e : String × String} :
    IsLastAlias (e :: inserts) name tableAlias ↔
      IsLastAlias inserts name tableAlias ∨ (e = (name, tableAlias) ∧ name ∉ inserts.map Prod.fst) := by
  constructor
  · rintro ⟨before, after, heq, hafter⟩
    cases before with
    | nil =>
        rw [List.nil_append, List.cons.injEq] at heq
        exact .inr ⟨heq.1, heq.2 ▸ hafter⟩
    | cons b before =>
        rw [List.cons_append, List.cons.injEq] at heq
        exact .inl ⟨before, after, heq.2, hafter⟩
  · rintro (⟨before, after, rfl, hafter⟩ | ⟨rfl, hnot⟩)
    · exact ⟨e :: before, after, rfl, hafter⟩
    · exact ⟨[], inserts, rfl, hnot⟩

/-- A name under which something was entered has a last alias. -/
theorem exists_isLastAlias_iff : (∃ tableAlias, IsLastAlias inserts name tableAlias) ↔ name ∈ inserts.map Prod.fst := by
  induction inserts with
  | nil =>
      refine iff_of_false ?_ List.not_mem_nil
      rintro ⟨_, before, after, heq, -⟩
      simp at heq
  | cons e rest ih =>
      simp only [isLastAlias_cons_iff, exists_or, ih, List.map_cons, List.mem_cons]
      by_cases hrest : name ∈ rest.map Prod.fst
      · simp [hrest]
      · simp [hrest, Prod.ext_iff, eq_comm]

/-- Where names are distinct, whatever was entered under a name was entered last under it. -/
theorem isLastAlias_iff_mem (h : (inserts.map Prod.fst).Nodup) :
    IsLastAlias inserts name tableAlias ↔ (name, tableAlias) ∈ inserts := by
  constructor
  · rintro ⟨before, after, rfl, -⟩
    exact List.mem_append_right _ List.mem_cons_self
  · intro hmem
    obtain ⟨before, after, rfl⟩ := List.append_of_mem hmem
    rw [List.map_append, List.map_cons, List.nodup_append, List.nodup_cons] at h
    exact ⟨before, after, rfl, h.2.1.1⟩

theorem get?_insert (m : AliasMap) (relation tableAlias name : String) :
    (m.insert relation tableAlias).get? name = if name = relation then some tableAlias else m.get? name :=
  m.entries.get?_assign relation tableAlias name

/-- A name leads to the alias that was entered last under it, and where none was entered to where it led before. -/
theorem get?_insertAll (m : AliasMap) :
    (m.insertAll inserts).get? name = some tableAlias ↔
      IsLastAlias inserts name tableAlias ∨ (name ∉ inserts.map Prod.fst ∧ m.get? name = some tableAlias) := by
  -- every alias that is entered changes the table, so the induction is over all tables to start from
  induction inserts generalizing m with
  | nil => simp [insertAll, IsLastAlias]
  | cons e rest ih =>
      rw [insertAll, List.foldl_cons, ← insertAll, ih, get?_insert, isLastAlias_cons_iff, or_assoc, List.map_cons,
        List.mem_cons, not_or]
      refine or_congr_right ?_
      by_cases hname : name = e.1
      · simp [hname, Prod.ext_iff, and_comm]
      · have hne : e ≠ (name, tableAlias) := fun heq => hname (heq ▸ rfl)
        simp [hname, hne]

/-- A name under which nothing was entered leads to where it led before. -/
theorem get?_insertAll_of_not_mem (m : AliasMap) (h : name ∉ inserts.map Prod.fst) :
    (m.insertAll inserts).get? name = m.get? name := by
  have hnone (tableAlias : String) : ¬IsLastAlias inserts name tableAlias := fun hlast =>
    h (exists_isLastAlias_iff.1 ⟨tableAlias, hlast⟩)
  apply Option.ext
  intro tableAlias
  rw [get?_insertAll, or_iff_right (hnone tableAlias), and_iff_right h]

/-- In a table of nothing but the base only its name leads somewhere. -/
theorem get?_ofBase (base name : String) :
    (ofBase base).get? name = if name = base then some Contract.baseAlias else none :=
  NameTable.get?_assign _ _ _ _

/-- The aliases that a table knows are those that names lead to. -/
theorem containsAlias_eq_true_iff (m : AliasMap) :
    m.containsAlias tableAlias = true ↔ ∃ name, m.get? name = some tableAlias := by
  simp only [containsAlias, get?, NameTable.get?_eq_some_iff_mem, List.any_eq_true, decide_eq_true_eq, Prod.exists]
  constructor
  · rintro ⟨name, _, hmem, rfl⟩
    exact ⟨name, hmem⟩
  · rintro ⟨name, hmem⟩
    exact ⟨name, tableAlias, hmem, rfl⟩

/-! ## Handing out and knowing -/

/-- A table knows the aliases that were entered last under a name, and the base alias where nothing took its place. -/
theorem containsAlias_insertAll_iff (base : String) :
    ((ofBase base).insertAll inserts).containsAlias tableAlias = true ↔
      (∃ name, IsLastAlias inserts name tableAlias)
        ∨ (base ∉ inserts.map Prod.fst ∧ tableAlias = Contract.baseAlias) := by
  simp only [containsAlias_eq_true_iff, get?_insertAll, exists_or, get?_ofBase, Option.ite_none_right_eq_some,
    Option.some.injEq]
  refine or_congr_right ⟨?_, ?_⟩
  · rintro ⟨_, hnot, rfl, rfl⟩
    exact ⟨hnot, rfl⟩
  · rintro ⟨hnot, rfl⟩
    exact ⟨base, hnot, rfl, rfl⟩

/-- A reference is read from its alias, whatever the name of the base is. -/
theorem IsReadFrom.aliasFor_eq {f : FieldRef} (h : IsReadFrom inserts f tableAlias) (base : String) :
    ((ofBase base).insertAll inserts).aliasFor f = tableAlias := by
  cases h with
  | base => rfl
  | relation last => simp only [aliasFor, (get?_insertAll _).2 (.inl last), Option.getD_some]
  | @fallback relation field unknown =>
      -- the name may be that of the base, whose entry is the base alias as well
      simp only [aliasFor, get?_insertAll_of_not_mem _ unknown, get?_ofBase]
      by_cases hbase : relation = base
      · rw [if_pos hbase, Option.getD_some]
      · rw [if_neg hbase, Option.getD_none]

theorem isReadFrom_aliasFor (base : String) (f : FieldRef) :
    IsReadFrom inserts f (((ofBase base).insertAll inserts).aliasFor f) := by
  obtain ⟨relation, field⟩ := f
  cases relation with
  | none => exact .base
  | some relation =>
      by_cases hentered : relation ∈ inserts.map Prod.fst
      · obtain ⟨tableAlias, hlast⟩ := exists_isLastAlias_iff.2 hentered
        have hread : IsReadFrom inserts ⟨some relation, field⟩ tableAlias := .relation hlast
        rw [hread.aliasFor_eq]
        exact hread
      · have hread : IsReadFrom inserts ⟨some relation, field⟩ Contract.baseAlias := .fallback hentered
        rw [hread.aliasFor_eq]
        exact hread

theorem containsAlias_baseAlias_iff (base : String) :
    ((ofBase base).insertAll inserts).containsAlias Contract.baseAlias = true ↔ KnowsBase base inserts := by
  rw [containsAlias_insertAll_iff, KnowsBase, or_comm, and_iff_left rfl]

/-- The alias that a reference is read from is known if its relation was entered, and otherwise if the base alias is. -/
theorem IsReadFrom.containsAlias_iff {f : FieldRef} (h : IsReadFrom inserts f tableAlias) (base : String) :
    ((ofBase base).insertAll inserts).containsAlias tableAlias = true ↔
      (∃ relation ∈ inserts.map Prod.fst, f.relation = some relation) ∨ KnowsBase base inserts := by
  cases h with
  | base => simp [containsAlias_baseAlias_iff]
  | @relation relation field _ last =>
      have hentered : relation ∈ inserts.map Prod.fst := exists_isLastAlias_iff.1 ⟨_, last⟩
      refine iff_of_true ?_ (.inl ⟨relation, hentered, rfl⟩)
      exact (containsAlias_insertAll_iff base).2 (.inl ⟨relation, last⟩)
  | @fallback relation field unknown =>
      have hnot : ¬∃ entered ∈ inserts.map Prod.fst, some relation = some entered := by
        rintro ⟨entered, hentered, heq⟩
        exact unknown (Option.some.inj heq ▸ hentered)
      exact (containsAlias_baseAlias_iff base).trans (or_iff_right hnot).symm

end Names

/-- Every reference is read from the alias that was entered last under its relation, or else from the base alias. The
base alias is known exactly if nothing took the place of the base or some relation has the base alias as well, and the
alias of a reference is known exactly if its relation was entered or the base alias is known. -/
theorem containsAlias_aliasFor_iff (base : String) (inserts : List (String × String)) (f : FieldRef) :
    (∀ tableAlias, ((ofBase base).insertAll inserts).aliasFor f = tableAlias ↔ IsReadFrom inserts f tableAlias)
      ∧ (((ofBase base).insertAll inserts).containsAlias Contract.baseAlias = true ↔ KnowsBase base inserts)
      ∧ (((ofBase base).insertAll inserts).containsAlias (((ofBase base).insertAll inserts).aliasFor f) = true ↔
          (∃ relation ∈ inserts.map Prod.fst, f.relation = some relation) ∨ KnowsBase base inserts) := by
  have hread : IsReadFrom inserts f (((ofBase base).insertAll inserts).aliasFor f) := isReadFrom_aliasFor base f
  refine ⟨fun tableAlias => ⟨?_, fun h => h.aliasFor_eq base⟩, containsAlias_baseAlias_iff base,
    hread.containsAlias_iff base⟩
  rintro rfl
  exact hread

/-- With their sequels, which are joined through a relation of the name of the base, fields of books are still read from
the base alias, but the table knows the aliases of the relations only. -/
theorem containsAlias_aliasFor_sequels :
    IsReadFrom [("Book", "b"), ("Shelf", "s")] ⟨none, "id"⟩ Contract.baseAlias
      ∧ ¬((ofBase "Book").insertAll [("Book", "b"), ("Shelf", "s")]).containsAlias Contract.baseAlias = true
      ∧ IsReadFrom [("Book", "b"), ("Shelf", "s")] ⟨some "Book", "id"⟩ "b"
      ∧ ((ofBase "Book").insertAll [("Book", "b"), ("Shelf", "s")]).containsAlias "b" = true := by
  obtain ⟨hplain, hknown, -⟩ := containsAlias_aliasFor_iff "Book" [("Book", "b"), ("Shelf", "s")] ⟨none, "id"⟩
  obtain ⟨hsequel, -, hcontained⟩ :=
    containsAlias_aliasFor_iff "Book" [("Book", "b"), ("Shelf", "s")] ⟨some "Book", "id"⟩
  have hlost : ¬KnowsBase "Book" [("Book", "b"), ("Shelf", "s")] := by
    simp [KnowsBase, isLastAlias_iff_mem, Contract.baseAlias]
  exact ⟨(hplain _).1 rfl, fun h => hlost (hknown.1 h), (hsequel _).1 rfl,
    hcontained.2 (.inl ⟨"Book", by simp, rfl⟩)⟩

end AliasMap

end QueryGate.Compile
