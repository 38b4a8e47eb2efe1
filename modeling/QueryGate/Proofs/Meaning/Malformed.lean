import QueryGate.Proofs.Compile.Typing
import QueryGate.Proofs.Meaning.Agreement
/-!
Filters without a usable value. Where a value is null or missing, or a range has no pair of bounds, the database
receives null: of a comparison with null nothing is known, so the condition is true on no row, and a statement with such
a filter has no rows. Patterns are the exception. They are built from the text of the value, and null has a text: a
pattern without a value matches the rows in which the word `null` stands.
-/
set_option autoImplicit false

namespace QueryGate.Meaning

open Json Plan Statement Compile

/-! ## What is malformed -/

/-- A filter is malformed if its value is null, or if it asks for a range and its value is no pair. -/
def IsMalformed (p : Predicate) : Prop :=
  p.value = .null ∨ p.comparison = .between ∧ ∀ low high, p.value ≠ .list [low, high]

/-- A filter is malformed as it is received if its value is missing or null, or if it asks for a range and its value is
no pair. -/
def IsMalformedEntry (entry : Value) : Prop :=
  entry.get? "value" = none ∨ entry.get? "value" = some .null
    ∨ Comparison.ofText (readPredicate entry).op = .between ∧ ∀ low high, entry.get? "value" ≠ some (.list [low, high])

/-- A filter that is malformed as it is received stays so when it is accepted. -/
theorem isMalformed_of_entry {entry : Value} (h : IsMalformedEntry entry) (field : FieldRef) :
    IsMalformed ⟨field, .ofText (readPredicate entry).op, (readPredicate entry).value⟩ := by
  have hvalue : (readPredicate entry).value = (entry.get? "value").getD .null := rfl
  rw [IsMalformed, hvalue]
  rcases h with hmissing | hnull | ⟨hrange, hpair⟩
  · exact .inl (by rw [hmissing, Option.getD_none])
  · exact .inl (by rw [hnull, Option.getD_some])
  · cases hentry : entry.get? "value" with
    | none => exact .inl rfl
    | some v =>
        refine .inr ⟨hrange, ?_⟩
        intro low high hv
        exact hpair low high (by rw [hentry, ← hv, Option.getD_some])

/-- A filter fails closed in a statement: its condition is true on no row of any database, and the statement has no rows
on any. -/
structure FailsClosed (s : Scope) (q : Select) (p : Predicate) : Prop where
  never_true : ∀ (V : Type) (db : Database V) (env : Env V), isTrueOn db (predicateCondition s p) env = false
  no_rows : ∀ (V : Type) (db : Database V), selectedRows db q = []

/-! ## Nothing is known of null -/

section Null

variable {V : Type} (db : Database V)

/-- A malformed filter that is none with a pattern holds on no value, since nothing is known of it. -/
theorem holds_eq_unknown (type : Contract.FieldType) (x : Option V) {p : Predicate} (hmalformed : IsMalformed p)
    (hpattern : p.comparison.isPattern = false) : db.holds type x p.value p.comparison = .unknown := by
  obtain ⟨field, comparison, v⟩ := p
  rcases hmalformed with (rfl : v = .null) | ⟨(rfl : comparison = .between), hpair⟩
  · cases comparison with
    | eq | gt | lt | gte | lte => exact compareValues_none db _ x
    | between => rfl
    | isIn => exact compareValues_none db _ x
    | contains | startsWith => cases hpattern
  · -- the equation for ranges that are no pairs
    rw [Database.holds]
    exact hpair

/-- Whatever stands in its column, the condition of a filter comes to what the comparison with its value does. -/
theorem truthOf_predicateCondition (s : Scope) (p : Predicate) (env : Env V) :
    ∃ x, db.truthOf (value db env (predicateCondition s p)) = db.holds (typeOf s p.field) x p.value p.comparison := by
  have hcolumn : value db env (s.column p.field) =
      .single ((env.lookup (s.aliases.aliasFor p.field)).bind fun row => row p.field.field) := by
    rw [Scope.column, value]
  exact ⟨_, truthOf_comparisonCondition db hcolumn _ _ _⟩

/-- The condition of a malformed filter that is none with a pattern is true on no row. -/
theorem isTrueOn_malformed (s : Scope) {p : Predicate} (hmalformed : IsMalformed p)
    (hpattern : p.comparison.isPattern = false) (env : Env V) : isTrueOn db (predicateCondition s p) env = false := by
  obtain ⟨x, htruth⟩ := truthOf_predicateCondition db s p env
  rw [isTrueOn, htruth, holds_eq_unknown db _ x hmalformed hpattern]
  rfl

/-- A statement whose condition is true nowhere has no rows. -/
theorem selectedRows_eq_nil {q : Select} (h : ∀ env, isTrueOn db q.condition env = false) : selectedRows db q = [] := by
  have hkept : (joinedRows db q).filter (isTrueOn db q.condition) = [] :=
    List.filter_eq_nil_iff.2 fun env _ => by rw [h env]; decide
  rw [selectedRows]
  simp only [hkept, sortBy, List.mergeSort_nil]
  cases q.limit <;> simp [limited]

end Null

/-- A malformed filter that is none with a pattern fails closed. -/
theorem failsClosed_of_malformed {s : Scope} (joins : List Join) {p : Predicate} (hp : p ∈ s.plan.filters)
    (hmalformed : IsMalformed p) (hpattern : p.comparison.isPattern = false) :
    FailsClosed s (selectWith s joins) p where
  never_true V db env := isTrueOn_malformed db s hmalformed hpattern env
  no_rows V db := by
    apply selectedRows_eq_nil
    intro env
    rw [← Bool.not_eq_true]
    intro htrue
    -- where the condition is true, so is each of its parts
    have hall := (isTrueOn_conjunction db env _).1 htrue
    have hown := hall _ (List.mem_map_of_mem hp)
    rw [isTrueOn_malformed db s hmalformed hpattern env] at hown
    cases hown

/-! ## Patterns -/

/-- The pattern of null is that of the word for it. -/
theorem predicateCondition_null (s : Scope) {p : Predicate} (hnull : p.value = .null)
    (hpattern : p.comparison.isPattern = true) :
    predicateCondition s p = predicateCondition s { p with value := .string "null" } := by
  obtain ⟨field, comparison, v⟩ := p
  obtain rfl : v = .null := hnull
  cases comparison with
  | contains | startsWith => rfl
  | _ => cases hpattern

/-- A database with a single value, which matches every pattern. -/
def singleValue : Database Unit where
  rows := fun _ => []
  text := fun _ => ()
  boolean := fun _ => ()
  isTrue := fun _ => true
  pack := fun _ => ()
  unpack := fun v => [some v]
  cast := fun _ v => v
  compare := fun _ _ _ => .yes
  rank := fun _ _ => .eq

/-- The condition of a pattern is true on some row of some database, whatever the pattern is. -/
theorem exists_isTrueOn_pattern (s : Scope) {p : Predicate} (hpattern : p.comparison.isPattern = true) :
    ∃ env, isTrueOn singleValue (predicateCondition s p) env = true := by
  obtain ⟨field, comparison, v⟩ := p
  -- the row need only be known under the alias of the field
  refine ⟨[(s.aliases.aliasFor field, fun _ => some ())], ?_⟩
  have hcolumn : value singleValue [(s.aliases.aliasFor field, fun _ => some ())] (s.column field) =
      .single (some ()) := by
    simp [Scope.column, value]
  rw [isTrueOn_iff, predicateCondition, truthOf_comparisonCondition singleValue hcolumn]
  cases comparison with
  | contains | startsWith => rfl
  | _ => cases hpattern

/-- A malformed filter fails closed exactly if it is none with a pattern. -/
theorem failsClosed_iff_of_malformed {s : Scope} (joins : List Join) {p : Predicate} (hp : p ∈ s.plan.filters)
    (hmalformed : IsMalformed p) :
    FailsClosed s (selectWith s joins) p ↔ p.comparison.isPattern = false := by
  constructor
  · intro hclosed
    rw [← Bool.not_eq_true]
    intro hpattern
    obtain ⟨env, htrue⟩ := exists_isTrueOn_pattern s hpattern
    rw [hclosed.never_true Unit singleValue env] at htrue
    cases htrue
  · exact failsClosed_of_malformed joins hp hmalformed

/-! ## Accepted plans -/

/-- A filter of an accepted plan whose value is null, or whose value is no pair for a range, fails closed unless it is
one with a pattern: its condition is true on no row, and the statement of the plan has no rows. A pattern without a
value is instead the pattern of the word `null`. What is missing when a filter is received is null when it is accepted.
-/
theorem failsClosed_iff_of_validate (catalog : Catalog) (v : Value) (plan : ValidPlan)
    (h : validate catalog (readPlan v) = .ok plan) :
    ∃ base query, catalog.lookup plan.resource = .ok base ∧ compilePlan catalog plan = .ok query
      ∧ query.select.condition =
          .conjunction (plan.filters.map (predicateCondition (scopeOf catalog.contract base plan)))
      ∧ (∀ p ∈ plan.filters, IsMalformed p →
          (FailsClosed (scopeOf catalog.contract base plan) query.select p ↔ p.comparison.isPattern = false)
            ∧ (p.comparison.isPattern = true →
                predicateCondition (scopeOf catalog.contract base plan) p =
                  predicateCondition (scopeOf catalog.contract base plan) { p with value := .string "null" }))
      ∧ ∀ entry ∈ itemsOfMember v "where", entry.isObject = true → IsMalformedEntry entry →
          isValidRef catalog.contract base plan.joins (.ofText (textOfMember entry "field")) = true →
          ∃ p ∈ plan.filters, IsMalformed p ∧ p.field = .ofText (textOfMember entry "field")
            ∧ p.comparison = .ofText (readPredicate entry).op := by
  obtain ⟨base, hresolve, hkept, -⟩ := (validate_eq_ok_iff catalog _ plan).1 h
  obtain ⟨-, hbase⟩ := (catalog.resolve_eq_ok_iff _ plan.resource base).1 hresolve
  obtain ⟨links, hfits⟩ := exists_fits_keptPlan hbase (readPlan v)
  rw [hkept] at hfits
  refine ⟨base, _, Catalog.lookup_eq_ok hbase, compilePlan_eq_ok hfits, rfl, ?_, ?_⟩
  · intro p hp hmalformed
    refine ⟨failsClosed_iff_of_malformed _ hp hmalformed, ?_⟩
    intro hpattern
    rcases hmalformed with hnull | ⟨hrange, -⟩
    · exact predicateCondition_null _ hnull hpattern
    · rw [hrange] at hpattern
      cases hpattern
  · intro entry hentry hobject hmalformed hvalid
    have hfilter : validPredicate (isValidRef catalog.contract base plan.joins) (readPredicate entry) =
        some ⟨.ofText (textOfMember entry "field"), .ofText (readPredicate entry).op, (readPredicate entry).value⟩ :=
      if_pos hvalid
    have hmem : readPredicate entry ∈ (readPlan v).filters :=
      List.mem_map_of_mem (List.mem_filter.2 ⟨hentry, hobject⟩)
    have hfilters : plan.filters =
        (readPlan v).filters.filterMap (validPredicate (isValidRef catalog.contract base plan.joins)) := by
      rw [← hkept]
      rfl
    exact ⟨_, hfilters ▸ List.mem_filterMap.2 ⟨_, hmem, hfilter⟩, isMalformed_of_entry hmalformed _, rfl, rfl⟩

/-- A filter for a range of discounts that has one number instead of two. -/
def looseRange : Value :=
  .object [("field", .string "discount"), ("op", .string "between"), ("value", .number (.natural 10))]

/-- A filter for rooms that have a word in them, without the word. -/
def wordlessRoom : Value := .object [("field", .string "Shelf.room"), ("op", .string "contains")]

/-- A range of one number leaves no books. A word that is missing is looked for as `null`, and does not fail closed. -/
theorem failsClosed_looseRange_and_wordlessRoom :
    (∃ plan query,
        validate (.ofContract Contract.Library.contract) (readPlan (shelvedBooksWhere [looseRange])) = .ok plan
        ∧ compilePlan (.ofContract Contract.Library.contract) plan = .ok query
        ∧ ∀ (V : Type) (db : Database V), selectedRows db query.select = [])
      ∧ ∃ plan query base p,
        validate (.ofContract Contract.Library.contract) (readPlan (shelvedBooksWhere [wordlessRoom])) = .ok plan
          ∧ compilePlan (.ofContract Contract.Library.contract) plan = .ok query
          ∧ p ∈ plan.filters ∧ p.value = .null
          ∧ predicateCondition (scopeOf Contract.Library.contract base plan) p =
              predicateCondition (scopeOf Contract.Library.contract base plan) { p with value := .string "null" }
          ∧ ¬FailsClosed (scopeOf Contract.Library.contract base plan) query.select p := by
  constructor
  · have haccepted : ∃ plan,
        validate (.ofContract Contract.Library.contract) (readPlan (shelvedBooksWhere [looseRange])) = .ok plan
          ∧ plan.resource = "Book" := ⟨_, rfl, rfl⟩
    obtain ⟨plan, h, hresource⟩ := haccepted
    obtain ⟨base, query, hbase, hquery, -, hclosed, hentries⟩ := failsClosed_iff_of_validate _ _ plan h
    rw [hresource] at hbase
    obtain rfl : Contract.Library.book = base := Except.ok.inj hbase
    have hmalformed : IsMalformedEntry looseRange := .inr (.inr ⟨by decide, fun low high hpair => by cases hpair⟩)
    obtain ⟨p, hp, hmalformed, -, hcomparison⟩ := hentries looseRange List.mem_cons_self rfl hmalformed rfl
    have hpattern : p.comparison.isPattern = false := by
      rw [hcomparison]
      decide
    exact ⟨plan, query, h, hquery, ((hclosed p hp hmalformed).1.2 hpattern).no_rows⟩
  · have haccepted : ∃ plan,
        validate (.ofContract Contract.Library.contract) (readPlan (shelvedBooksWhere [wordlessRoom])) = .ok plan
          ∧ plan.filters = [⟨⟨some "Shelf", "room"⟩, .contains, .null⟩] := ⟨_, rfl, rfl⟩
    obtain ⟨plan, h, hfilters⟩ := haccepted
    obtain ⟨base, query, -, hquery, -, hclosed, -⟩ := failsClosed_iff_of_validate _ _ plan h
    have hp : ⟨⟨some "Shelf", "room"⟩, .contains, .null⟩ ∈ plan.filters := hfilters ▸ List.mem_cons_self
    obtain ⟨hiff, hword⟩ := hclosed _ hp (.inl rfl)
    refine ⟨plan, query, base, _, h, hquery, hp, rfl, hword rfl, ?_⟩
    intro hfails
    cases hiff.1 hfails

end QueryGate.Meaning
