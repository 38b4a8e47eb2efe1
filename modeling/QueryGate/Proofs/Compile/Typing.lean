import Mathlib.Data.List.Forall2
import QueryGate.Proofs.Compile.Whitelist
import QueryGate.Proofs.Statement.Typing
/-!
Types in conditions. The type of a filter's field is looked up through the relation of its reference, and its column is
named through the alias of that relation. Both come to the same field of the same resource, so every operand that is
cast is cast to the type of the column that it is compared with. A pattern is a text and is compared with the column as
it is, whatever its type: such a comparison is well typed exactly if the field is a text.
-/
set_option autoImplicit false

namespace QueryGate.Plan

/-- Whether a comparison is one with a pattern. -/
def Comparison.isPattern : Comparison → Bool
  | .contains | .startsWith => true
  | _ => false

end QueryGate.Plan

namespace QueryGate.Compile

open Plan Statement

/-! ## Comparisons -/

/-- The operator of a comparison with one value. -/
def operatorOf : Comparison → Option Operator
  | .eq => some .equals
  | .gt => some .greater
  | .lt => some .less
  | .gte => some .greaterOrEqual
  | .lte => some .lessOrEqual
  | .contains | .startsWith | .between | .isIn => none

/-- An expression compares a column with operands of a type, as a comparison asks for: with a value that is cast to the
type, with bounds that are cast to it, with any of an array that is cast to arrays of it, or with a pattern, which is a
text whatever the type is. -/
inductive Compares (column : Expression) (type : BaseType) : Comparison → Expression → Prop where
  | one {comparison : Comparison} {operator : Operator} (h : operatorOf comparison = some operator) (v : Json.Value) :
    Compares column type comparison (.binary column operator (.cast (.parameter v) (.base type)))
  | range (low high : Json.Value) :
    Compares column type .between
      (.between column (.cast (.parameter low) (.base type)) (.cast (.parameter high) (.base type)))
  | choice (items : List Json.Value) :
    Compares column type .isIn
      (.binary column .equals (.any [.cast (.parameter (.list items)) (.array type)]))
  | pattern {comparison : Comparison} (h : comparison.isPattern = true) (text : String) :
    Compares column type comparison (.binary column .like (.parameter (.string text)))

/-- The condition of a filter compares its column with operands of the type of its field. -/
theorem compares_predicateCondition (s : Scope) (p : Predicate) :
    Compares (s.column p.field) (baseTypeOf (typeOf s p.field)) p.comparison (predicateCondition s p) := by
  obtain ⟨field, comparison, value⟩ := p
  cases comparison with
  | eq | gt | lt | gte | lte => exact .one rfl value
  | between => exact .range _ _
  | isIn => exact .choice (itemsOf value)
  | contains | startsWith => exact .pattern rfl _

theorem operatorOf_ne_like {comparison : Comparison} {operator : Operator}
    (h : operatorOf comparison = some operator) : operator ≠ .like ∧ comparison.isPattern = false := by
  cases comparison with
  | eq | gt | lt | gte | lte =>
      cases h
      exact ⟨by decide, rfl⟩
  | contains | startsWith | between | isIn => cases h

/-- A comparison with a column of a type is well typed exactly if it is none with a pattern or the type is text. -/
theorem Compares.hasType_iff {columns : String → String → BaseType → Prop} {table name : String} {type : BaseType}
    (hcolumn : ∀ t, columns table name t ↔ t = type) {comparison : Comparison} {e : Expression}
    (h : Compares (.column table name) type comparison e) :
    e.HasType columns .condition ↔ (comparison.isPattern = true → type = .text) := by
  have hself : (Expression.column table name).HasType columns (.base type) := .column ((hcolumn type).2 rfl)
  cases h with
  | one h v =>
      obtain ⟨hexact, hnone⟩ := operatorOf_ne_like h
      exact iff_of_true (.compare hexact hself (.cast v type)) (by simp [hnone])
  | range low high =>
      exact iff_of_true (.between hself (.cast low type) (.cast high type)) (by simp [Comparison.isPattern])
  | choice items =>
      exact iff_of_true (.compareAny (by decide) hself (.any (.castArray _ type))) (by simp [Comparison.isPattern])
  | pattern h text =>
      rw [hasType_like_iff, hasType_column_iff, hcolumn, and_iff_left (.uncast _)]
      simp [h, eq_comm]

/-! ## Columns and their types -/

/-- A reference reads a column, which is a declared field: of the base under the base alias, or of the target of a link
under the alias of the link. -/
inductive ReadsField (base : Contract.ResourceInfo) (links : List Link) :
    FieldRef → String → String → Contract.FieldInfo → Prop where
  | base {name : String} {field : Contract.FieldInfo} (declared : base.fields.get? name = some field) :
    ReadsField base links ⟨none, name⟩ Contract.baseAlias name field
  | link {l : Link} {name : String} {field : Contract.FieldInfo} (mem : l ∈ links)
    (declared : l.target.fields.get? name = some field) :
    ReadsField base links ⟨some l.name, name⟩ l.relation.tableAlias name field

/-- The types that a contract declares for the columns of a statement. -/
def declaredTypes (base : Contract.ResourceInfo) (links : List Link) (table name : String) (type : BaseType) : Prop :=
  ∃ info field, (table, info) ∈ sources base links ∧ info.fields.get? name = some field ∧ type = baseTypeOf field.type

/-- A reference reads a text. -/
def ReadsText (base : Contract.ResourceInfo) (links : List Link) (f : FieldRef) : Prop :=
  ∃ table name field, ReadsField base links f table name field ∧ field.type = .text

/-- The condition of a filter compares the column of its field with operands of the declared type of that field, and it
is well typed exactly if it does not compare a field of another type than text with a pattern. -/
def IsTypedConjunct (base : Contract.ResourceInfo) (links : List Link) (p : Predicate) (e : Expression) : Prop :=
  ∃ table name field, ReadsField base links p.field table name field
    ∧ Compares (.column table name) (baseTypeOf field.type) p.comparison e
    ∧ (e.HasType (fun t n type => t = table ∧ n = name ∧ type = baseTypeOf field.type) .condition ↔
        (p.comparison.isPattern = true → field.type = .text))

theorem baseTypeOf_eq_text_iff (type : Contract.FieldType) : baseTypeOf type = .text ↔ type = .text := by
  cases type <;> decide

section Fits

variable {c : Contract} {base : Contract.ResourceInfo} {links : List Link} {plan : ValidPlan}

/-- A reference that leads somewhere reads a field. -/
theorem exists_readsField {f : FieldRef} {info : Contract.ResourceInfo} (h : LeadsTo base links f info) :
    ∃ table name field, ReadsField base links f table name field := by
  obtain ⟨field, hfield⟩ := (NameTable.contains_eq_true_iff _ _).1 h.hasField
  cases h with
  | base _ => exact ⟨_, _, field, .base hfield⟩
  | link hl _ => exact ⟨_, _, field, .link hl hfield⟩

namespace ReadsField

variable {f : FieldRef} {table name : String} {field : Contract.FieldInfo}

/-- The column of a reference is named through the alias of its relation. -/
theorem column_eq (h : ReadsField base links f table name field) (hfits : plan.Fits c base links) :
    (scopeOf c base plan).column f = .column table name := by
  cases h with
  | base _ => exact column_unqualified _ _
  | link hl _ => exact column_link hfits hl _

/-- The type of a reference is looked up through its relation, and leads to the field of its column. -/
theorem field?_eq (h : ReadsField base links f table name field) (hfits : plan.Fits c base links) :
    (scopeOf c base plan).field? f = some field := by
  cases h with
  | base declared =>
      rw [field?_scopeOf hfits (.base ((NameTable.contains_eq_true_iff _ _).2 ⟨field, declared⟩)), declared]
  | link hl declared =>
      rw [field?_scopeOf hfits (.link hl ((NameTable.contains_eq_true_iff _ _).2 ⟨field, declared⟩)), declared]

theorem typeOf_eq (h : ReadsField base links f table name field) (hfits : plan.Fits c base links) :
    typeOf (scopeOf c base plan) f = field.type := by
  rw [typeOf, h.field?_eq hfits]
  rfl

/-- The field is declared by the source that stands under the alias of the column. -/
theorem exists_source (h : ReadsField base links f table name field) :
    ∃ info, (table, info) ∈ sources base links ∧ info.fields.get? name = some field := by
  cases h with
  | base declared => exact ⟨base, List.mem_cons_self, declared⟩
  | @link l _ _ hl declared => exact ⟨l.target, List.mem_cons_of_mem _ (List.mem_map_of_mem hl), declared⟩

/-- Where no alias stands for two sources, the contract declares one type for the column. -/
theorem declaredTypes_iff (h : ReadsField base links f table name field)
    (hnodup : ((sources base links).map Prod.fst).Nodup) (type : BaseType) :
    declaredTypes base links table name type ↔ type = baseTypeOf field.type := by
  obtain ⟨info, hsource, hfield⟩ := h.exists_source
  constructor
  · -- another source under this alias would be the same one
    rintro ⟨other, otherField, hother, hotherField, rfl⟩
    obtain rfl : other = info := congrArg Prod.snd (List.inj_on_of_nodup_map hnodup hother hsource rfl)
    rw [Option.some.inj (hotherField.symm.trans hfield)]
  · rintro rfl
    exact ⟨info, field, hsource, hfield, rfl⟩

/-- A reference of a plan that fits reads a text exactly if its field is looked up as one. -/
theorem readsText_iff (h : ReadsField base links f table name field) (hfits : plan.Fits c base links) :
    ReadsText base links f ↔ field.type = .text := by
  constructor
  · -- the type is looked up for the reference, so it does not depend on the column that is read
    rintro ⟨table', name', field', h', htext⟩
    rw [← htext, ← h.typeOf_eq hfits, h'.typeOf_eq hfits]
  · exact fun htext => ⟨table, name, field, h, htext⟩

end ReadsField

/-! ## Filters -/

/-- A filter of a plan that fits compares a declared field with operands of its type. -/
theorem exists_compares (hfits : plan.Fits c base links) {p : Predicate} (hp : p ∈ plan.filters) :
    ∃ table name field, ReadsField base links p.field table name field
      ∧ Compares (.column table name) (baseTypeOf field.type) p.comparison
          (predicateCondition (scopeOf c base plan) p) := by
  have hmem : p.field ∈ plan.references := List.mem_append_left _ (List.mem_append_right _ (List.mem_map_of_mem hp))
  obtain ⟨info, hlead⟩ := hfits.references_lead p.field hmem
  obtain ⟨table, name, field, hreads⟩ := exists_readsField hlead
  have hcompares := compares_predicateCondition (scopeOf c base plan) p
  rw [hreads.column_eq hfits, hreads.typeOf_eq hfits] at hcompares
  exact ⟨table, name, field, hreads, hcompares⟩

theorem isTypedConjunct_predicateCondition (hfits : plan.Fits c base links) {p : Predicate} (hp : p ∈ plan.filters) :
    IsTypedConjunct base links p (predicateCondition (scopeOf c base plan) p) := by
  obtain ⟨table, name, field, hreads, hcompares⟩ := exists_compares hfits hp
  refine ⟨table, name, field, hreads, hcompares, ?_⟩
  rw [hcompares.hasType_iff (by simp), baseTypeOf_eq_text_iff]

/-- Where no alias stands for two sources, the condition of a plan that fits is well typed exactly if its patterns are
compared with texts. -/
theorem hasType_condition_iff (hfits : plan.Fits c base links) (hnodup : ((sources base links).map Prod.fst).Nodup) :
    (condition (scopeOf c base plan)).HasType (declaredTypes base links) .condition ↔
      ∀ p ∈ plan.filters, p.comparison.isPattern = true → ReadsText base links p.field := by
  rw [condition, hasType_conjunction_iff, List.forall_mem_map]
  apply forall₂_congr
  intro p hp
  obtain ⟨table, name, field, hreads, hcompares⟩ := exists_compares hfits hp
  rw [hcompares.hasType_iff (hreads.declaredTypes_iff hnodup), baseTypeOf_eq_text_iff, hreads.readsText_iff hfits]

end Fits

/-! ## Every condition that is compiled -/

/-- Each part of the condition of a statement compares the column of a field with operands of the declared type of that
field: a value or two bounds that are cast to its base type, or an array that is cast to arrays of it. A pattern is a
text that is compared with the column as it is, so that part is well typed exactly if the field is a text. Where the
contract passes its check, so that each column has one declared type, the whole condition is well typed exactly if every
pattern is compared with a text. -/
theorem isTypedConjunct_of_compileValue (c : Contract) (v : Json.Value) (plan : ValidPlan) (query : Query)
    (h : compileValue (.ofContract c) v = .ok (plan, query)) :
    ∃ base links, c.resource? query.root = some base ∧ IsWhitelisted c base links query.select
      ∧ plan.joins = links.map Link.join
      ∧ (∃ conjuncts, query.select.condition = .conjunction conjuncts
        ∧ List.Forall₂ (IsTypedConjunct base links) plan.filters conjuncts)
      ∧ (Contract.check c = .ok () → (query.select.condition.HasType (declaredTypes base links) .condition ↔
          ∀ p ∈ plan.filters, p.comparison.isPattern = true → ReadsText base links p.field)) := by
  obtain ⟨-, hraw⟩ := (compileValue_eq_ok_iff _ v _).1 h
  obtain ⟨base, links, -, hfits, rfl⟩ := exists_fits_of_compileRaw hraw
  refine ⟨base, links, hfits.base_declared, isWhitelisted_of_fits hfits, hfits.joins_eq, ?_, ?_⟩
  · refine ⟨plan.filters.map (predicateCondition (scopeOf c base plan)), rfl, ?_⟩
    rw [List.forall₂_map_right_iff, List.forall₂_same]
    exact fun p hp => isTypedConjunct_predicateCondition hfits hp
  · intro hcheck
    have hbase := Contract.isConsistent_of_check hcheck hfits.base_declared
    have hnodup := nodup_aliases hbase hfits.links_declared hfits.names_nodup
    exact hasType_condition_iff hfits (map_fst_sources ▸ hnodup)

/-- A plan for books on their shelves with some filters. -/
def shelvedBooksWhere (entries : List Json.Value) : Json.Value :=
  .object [("joins", .list [.object [("resource", .string "Shelf")]]), ("resource", .string "books"),
    ("where", .list entries)]

/-- A plan for books with a pattern for the rooms of their shelves, a range of discounts and a choice of books. -/
def roomPatternPlan : Json.Value :=
  shelvedBooksWhere [
    .object [("field", .string "Shelf.room"), ("op", .string "contains"), ("value", .string "attic")],
    .object [("field", .string "discount"), ("op", .string "between"),
      ("value", .list [.number (.natural 2), .number (.natural 7)])],
    .object [("field", .string "id"), ("op", .string "in"), ("value", .string "3")]]

/-- The rooms are texts, so the condition on them, on the discounts and on the books is well typed. -/
theorem hasType_roomPattern :
    ∃ plan query base links, compileValue (.ofContract Contract.Library.contract) roomPatternPlan = .ok (plan, query)
      ∧ plan.filters.map (·.comparison) = [.contains, .between, .isIn]
      ∧ query.select.condition.HasType (declaredTypes base links) .condition := by
  have hcompiled : ∃ plan query,
      compileValue (.ofContract Contract.Library.contract) roomPatternPlan = .ok (plan, query)
        ∧ plan.joins = [⟨"Shelf", "s", .inner, "shelf", "Shelf", "id"⟩]
        ∧ plan.filters.map (fun p => (p.field, p.comparison)) =
          [(⟨some "Shelf", "room"⟩, .contains), (⟨none, "discount"⟩, .between), (⟨none, "id"⟩, .isIn)] :=
    ⟨_, _, rfl, rfl, rfl⟩
  obtain ⟨plan, query, h, hjoins, hfilters⟩ := hcompiled
  obtain ⟨base, links, -, hwhitelisted, hlinks, -, htyped⟩ :=
    isTypedConjunct_of_compileValue Contract.Library.contract roomPatternPlan plan query h
  have hcomparisons := congrArg (List.map Prod.snd) hfilters
  rw [List.map_map] at hcomparisons
  refine ⟨plan, query, base, links, h, hcomparisons, (htyped rfl).2 ?_⟩
  -- the only join leads to the shelves, which declare their rooms as texts
  have hroom : ReadsText base links ⟨some "Shelf", "room"⟩ := by
    have hmem : ⟨"Shelf", "s", .inner, "shelf", "Shelf", "id"⟩ ∈ links.map Link.join :=
      hlinks ▸ hjoins ▸ List.mem_cons_self
    obtain ⟨l, hl, hjoin⟩ := List.mem_map.1 hmem
    have hname : l.name = "Shelf" := congrArg (·.relation) hjoin
    have htarget : l.relation.targetResource = "Shelf" := congrArg (·.targetResource) hjoin
    have hshelf : Contract.Library.contract.resource? l.relation.targetResource = some l.target :=
      (hwhitelisted.links_declared l hl).2
    rw [htarget] at hshelf
    have htype : l.target.fields.get? "room" = some ⟨.text, none⟩ := by
      rw [← Option.some.inj (hshelf : some Contract.Library.shelf = some l.target)]
      rfl
    exact hname ▸ ⟨_, _, _, .link hl htype, rfl⟩
  intro p hp hpattern
  have hpair : (p.field, p.comparison) ∈ plan.filters.map fun p => (p.field, p.comparison) := List.mem_map_of_mem hp
  simp only [hfilters, List.mem_cons, Prod.mk.injEq, List.not_mem_nil, or_false] at hpair
  rcases hpair with ⟨hfield, -⟩ | ⟨-, hcomparison⟩ | ⟨-, hcomparison⟩
  · exact hfield ▸ hroom
  · rw [hcomparison] at hpattern
    cases hpattern
  · rw [hcomparison] at hpattern
    cases hpattern

/-- A plan for books whose discount has a five in it. -/
def discountPatternPlan : Json.Value :=
  .object [("resource", .string "books"),
    ("where", .list [.object [("field", .string "discount"), ("op", .string "contains"),
      ("value", .number (.natural 5))]])]

/-- A discount is a number, and yet it is compared with a pattern as it is, which is not well typed. -/
theorem not_hasType_discountPattern :
    Contract.check Contract.Library.contract = .ok ()
      ∧ ∃ plan query, compileValue (.ofContract Contract.Library.contract) discountPatternPlan = .ok (plan, query)
        ∧ query.select.condition = .binary (.column "t" "discount") .like (.parameter (.string "%5%"))
        ∧ Contract.Library.book.fields.get? "discount" = some ⟨.number, none⟩
        ∧ ¬query.select.condition.HasType (declaredTypes Contract.Library.book []) .condition := by
  refine ⟨rfl, _, _, rfl, rfl, rfl, ?_⟩
  intro h
  obtain ⟨info, field, hsource, hfield, htype⟩ := hasType_column_iff.1 (hasType_like_iff.1 h).1
  obtain rfl : info = Contract.Library.book := congrArg Prod.snd (List.mem_singleton.1 hsource)
  obtain rfl : field = ⟨.number, none⟩ := (Option.some.inj hfield).symm
  cases htype

end QueryGate.Compile
