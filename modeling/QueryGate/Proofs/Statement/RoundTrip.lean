import QueryGate.Proofs.Statement.Reading
/-!
The text of a statement and its parameters determine its syntax tree: what is rendered can be read back, whatever
stands in the identifiers. Two statements with the same text and the same parameters are the same.
-/
set_option autoImplicit false

namespace QueryGate.Statement

/-! ## The tokens of a statement -/

/-- The tokens of the clauses of a statement, from the columns to the limit. -/
theorem tokensOf_select (q : Select) :
    tokensOf q.pieces = (Piece.fixed "SELECT ").tokens ++ (tokensOf (commaSeparated (q.columns.map Expression.pieces))
      ++ ((Piece.fixed " FROM ").tokens ++ ((Piece.identifier q.table).tokens ++ ((Piece.fixed " AS ").tokens
        ++ ((Piece.identifier q.tableAlias).tokens ++ (tokensOf (q.joins.flatMap Join.pieces)
          ++ (tokensOf (conditionPieces q.condition)
            ++ (tokensOf (orderPieces q.order) ++ tokensOf (limitPieces q.limit))))))))) := by
  have hfrom (ts : List Token) : (Piece.fixed " FROM ").tokens ++ ts =
      (Piece.fixed " ").tokens ++ ((Piece.fixed "FROM ").tokens ++ ts) := rfl
  rw [Select.pieces, hfrom]
  simp only [tokensOf_append, tokensOf_cons, List.append_assoc, List.nil_append, List.cons_append]

/-- What follows the joins of a statement begins no join. -/
theorem readOneOf_joinWords_clauses (e : Expression) (keys : List OrderKey) (limit : Option Nat) :
    readOneOf joinWords
      (tokensOf (conditionPieces e) ++ (tokensOf (orderPieces keys) ++ tokensOf (limitPieces limit))) = none := by
  unfold conditionPieces
  split
  · cases keys with
    | nil => cases limit <;> rfl
    | cons k rest => rfl
  · rfl

theorem skip_where_clauses (keys : List OrderKey) (limit : Option Nat) :
    skip " WHERE " (tokensOf (orderPieces keys) ++ tokensOf (limitPieces limit)) = none := by
  cases keys with
  | nil => cases limit <;> rfl
  | cons k rest => rfl

/-! ## Fuel -/

/-- As much fuel as a statement needs: for each expression as many units as it has tokens, and one for each item of a
list. -/
structure IsEnough (q : Select) (fuel : Nat) : Prop where
  column : ∀ e ∈ q.columns, (tokensOf e.pieces).length ≤ fuel
  columns : q.columns.length ≤ fuel
  join : ∀ j ∈ q.joins, (tokensOf j.condition.pieces).length ≤ fuel
  joins : q.joins.length ≤ fuel
  condition : (tokensOf q.condition.pieces).length ≤ fuel
  key : ∀ k ∈ q.order, (tokensOf k.subject.pieces).length ≤ fuel
  keys : q.order.length ≤ fuel

theorem length_tokensOf_joins (joins : List Join) :
    joins.length ≤ (tokensOf (joins.flatMap Join.pieces)).length
      ∧ ∀ j ∈ joins, (tokensOf j.condition.pieces).length ≤ (tokensOf (joins.flatMap Join.pieces)).length := by
  induction joins with
  | nil => simp
  | cons j rest ih =>
      have hj : (tokensOf j.condition.pieces).length < (tokensOf j.pieces).length := by
        simp only [Join.pieces, tokensOf_cons, List.length_append, Piece.tokens, List.length_singleton]
        omega
      rw [List.flatMap_cons, tokensOf_append, List.length_append, List.length_cons, List.forall_mem_cons]
      refine ⟨by omega, by omega, fun k hk => ?_⟩
      have hk := ih.2 k hk
      omega

theorem length_tokensOf_condition (e : Expression) :
    (tokensOf e.pieces).length ≤ max 4 (tokensOf (conditionPieces e)).length := by
  unfold conditionPieces
  by_cases htrue : e.isTrue = true
  · rw [(isTrue_eq_true_iff e).1 htrue]
    exact Nat.le_max_left 4 _
  · rw [if_neg htrue, tokensOf_cons, List.length_append]
    omega

theorem length_tokensOf_order (keys : List OrderKey) :
    keys.length ≤ (tokensOf (orderPieces keys)).length
      ∧ ∀ k ∈ keys, (tokensOf k.subject.pieces).length ≤ (tokensOf (orderPieces keys)).length := by
  have hkey (k : OrderKey) : (tokensOf k.subject.pieces).length ≤ (tokensOf k.pieces).length := by
    rw [OrderKey.pieces, tokensOf_append, List.length_append]
    omega
  cases keys with
  | nil => simp
  | cons k rest =>
      rw [orderPieces, tokensOf_cons, List.length_append]
      have hcount : (k :: rest).length ≤ (tokensOf (commaSeparated ((k :: rest).map OrderKey.pieces))).length :=
        length_le_tokensOf fun l _ => Nat.lt_of_lt_of_le (length_tokensOf_pos l.subject) (hkey l)
      refine ⟨by omega, fun l hl => ?_⟩
      have hsubject := hkey l
      have hitem := length_tokensOf_le (f := OrderKey.pieces) hl
      omega

/-- The number of its tokens is enough for a statement. -/
theorem isEnough_length (q : Select) : IsEnough q (tokensOf q.pieces).length := by
  have hlength := congrArg List.length (tokensOf_select q)
  have hselect : (Piece.fixed "SELECT ").tokens.length = 7 := rfl
  simp only [List.length_append, hselect] at hlength
  have hcolumns : q.columns.length ≤ (tokensOf (commaSeparated (q.columns.map Expression.pieces))).length :=
    length_le_tokensOf fun e _ => length_tokensOf_pos e
  obtain ⟨hjoins, hjoin⟩ := length_tokensOf_joins q.joins
  have hcondition := length_tokensOf_condition q.condition
  obtain ⟨hkeys, hkey⟩ := length_tokensOf_order q.order
  refine ⟨fun e he => ?_, by omega, fun j hj => ?_, by omega, by omega, fun k hk => ?_, by omega⟩
  · have hitem := length_tokensOf_le (f := Expression.pieces) he
    omega
  · have hitem := hjoin j hj
    omega
  · have hitem := hkey k hk
    omega

/-! ## Reading back -/

/-- With enough fuel the tokens of a statement are read back as this statement. -/
theorem readSelectWith_tokensOf {q : Select} {fuel : Nat} (hfuel : IsEnough q fuel) :
    readSelectWith fuel (tokensOf q.pieces) = some q := by
  have hcolumns : ∀ e ∈ q.columns, ReadsBack (readExpression fuel) e :=
    fun e he => readsBack_readExpression e (hfuel.column e he)
  have hjoins : ∀ j ∈ q.joins, ReadsBack (readExpression fuel) j.condition :=
    fun j hj => readsBack_readExpression j.condition (hfuel.join j hj)
  have hcondition : ReadsBack (readExpression fuel) q.condition := readsBack_readExpression q.condition hfuel.condition
  have hkeys : ∀ k ∈ q.order, ReadsBack (readExpression fuel) k.subject :=
    fun k hk => readsBack_readExpression k.subject (hfuel.key k hk)
  have horder : skip " ORDER BY " (tokensOf (limitPieces q.limit)) = none
      ∧ skip ", " (tokensOf (limitPieces q.limit)) = none := by
    cases q.limit <;> exact ⟨rfl, rfl⟩
  have hselected (ts : List Token) : readItems (readExpression fuel) " " fuel
      (tokensOf (commaSeparated (q.columns.map Expression.pieces)) ++ ((Piece.fixed " FROM ").tokens ++ ts)) =
        some (q.columns, (Piece.fixed " FROM ").tokens ++ ts) :=
    readItems_expressions hcolumns (fun e ts => (skip_expression e ts).2) hfuel.columns rfl rfl
  -- each clause is read up to the next, which begins with a word of its own
  rw [tokensOf_select, readSelectWith]
  simp only [skip_fixed, Option.bind_eq_bind, Option.bind_some, hselected, readTable_tokens,
    readJoins_tokensOf hjoins hfuel.joins (readOneOf_joinWords_clauses q.condition q.order q.limit),
    readClause_condition hcondition (skip_where_clauses q.order q.limit),
    readClause_order hkeys hfuel.keys horder.1 horder.2, readClause_limit]

/-- A rendered statement is read back. -/
theorem parse_render (q : Select) : parse (q.render .empty) = some q := by
  rw [parse, tokens_render, Option.bind_some, readSelect]
  exact readSelectWith_tokensOf (isEnough_length q)

/-! ## What the text determines -/

/-- The name of a piece that is an identifier. -/
def Piece.name? : Piece → Option String
  | .fixed _ => none
  | .identifier name => some name
  | .number _ => none
  | .parameter _ => none

/-- The name of a lexeme that is a quoted identifier. -/
def Lexeme.name? : Lexeme → Option String
  | .quoted name => some (String.ofList name)
  | .placeholder _ => none
  | .char _ => none
  | .unclosed _ => none

/-- The identifiers that are read are those that were written, in their order. -/
theorem filterMap_name?_lexemesOf (k : Nat) (ps : List Piece) :
    (lexemesOf k ps).filterMap Lexeme.name? = ps.filterMap Piece.name? := by
  have hchars := filterMap_map_char (f := Lexeme.name?) fun _ => rfl
  induction ps generalizing k with
  | nil => rfl
  | cons p ps ih =>
      cases p with
      | fixed text =>
          rw [lexemesOf, List.filterMap_append, hchars, ih]
          rfl
      | identifier name =>
          rw [lexemesOf, List.filterMap_cons, List.filterMap_cons, ih, Lexeme.name?, String.ofList_toList]
          rfl
      | number n =>
          rw [lexemesOf, List.filterMap_append, hchars, ih]
          rfl
      | parameter value =>
          rw [lexemesOf, List.filterMap_cons, ih]
          rfl

/-- A condition leaves no text exactly if it is the literal true. -/
theorem text_renderCondition_eq_iff (e : Expression) (s : Statement) :
    (renderCondition e s).text = s.text ↔ e = .boolean true := by
  rw [renderCondition_eq_appendAll, conditionPieces, ← isTrue_eq_true_iff]
  by_cases htrue : e.isTrue = true
  · rw [if_pos htrue, appendAll_nil]
    exact iff_of_true rfl htrue
  · refine iff_of_false ?_ htrue
    intro htext
    -- any other condition makes the text longer, if only by the word before it
    have hlength := congrArg (fun text => text.toList.length) htext
    have hwhere : (" WHERE ".toList).length = 7 := rfl
    simp only [if_neg htrue, toList_text_appendAll, charsOf, Piece.chars, List.length_append, hwhere] at hlength
    omega

/-- The text of a statement and its parameters determine its syntax tree. It can be read back; no other tree has the
same text and parameters; the quoted identifiers of the text are those of the tree, each with its own content; and
only the literal true has no clause as a condition. -/
theorem render_determines (q : Select) :
    parse (q.render .empty) = some q
      ∧ (∀ r : Select, r.render .empty = q.render .empty ↔ r = q)
      ∧ (lex (q.render .empty).text.toList).filterMap Lexeme.name? = q.pieces.filterMap Piece.name?
      ∧ ∀ s : Statement, (renderCondition q.condition s).text = s.text ↔ q.condition = .boolean true := by
  refine ⟨parse_render q, fun r => ⟨fun h => ?_, fun h => by rw [h]⟩, ?_, text_renderCondition_eq_iff q.condition⟩
  · have hr := parse_render r
    rw [h, parse_render q] at hr
    exact (Option.some.inj hr).symm
  · rw [lex_render, filterMap_name?_lexemesOf]

end QueryGate.Statement
