import QueryGate.Proofs.Statement.Conjunction
import QueryGate.Proofs.Statement.Reading
/-!
The parts of a statement. A parameter becomes the placeholder that counts it, so the placeholders in a part of a text
are those of the parameters of that part, and they count on from the parameters that stand to the left of it. A part
can be read on its own wherever the pieces of an expression begin and end.

A condition that is the literal true is left out. Whether there is one can be seen from the word before it, which has a
letter that stands in no other word of a statement.
-/
set_option autoImplicit false

namespace QueryGate.Statement

/-! ## Parameters -/

/-- The parameters of pieces, from left to right. -/
def parametersOf (ps : List Piece) : List Json.Value := ps.flatMap Piece.parameters

@[simp] theorem parametersOf_nil : parametersOf [] = [] := rfl

@[simp] theorem parametersOf_cons (p : Piece) (ps : List Piece) :
    parametersOf (p :: ps) = p.parameters ++ parametersOf ps := rfl

@[simp] theorem parametersOf_append (ps qs : List Piece) :
    parametersOf (ps ++ qs) = parametersOf ps ++ parametersOf qs :=
  List.flatMap_append

attribute [simp] Piece.parameters

/-- The parameters of an expression, from left to right. -/
def Expression.parameters (e : Expression) : List Json.Value := parametersOf e.pieces

/-- Commas are no parameters. -/
theorem parametersOf_commaSeparated (rows : List (List Piece)) :
    parametersOf (commaSeparated rows) = rows.flatMap parametersOf := by
  induction rows with
  | nil => rfl
  | cons ps rest ih =>
      cases rest with
      | nil => simp [commaSeparated]
      | cons qs rest => simp [commaSeparated, ih]

/-- The parameters of expressions with commas between them are those of each. -/
theorem parametersOf_expressions (es : List Expression) :
    parametersOf (commaSeparated (es.map Expression.pieces)) = es.flatMap Expression.parameters := by
  rw [parametersOf_commaSeparated, List.flatMap_map]
  rfl

theorem parameters_and (left right : Expression) :
    (Expression.and left right).parameters = left.parameters ++ right.parameters := by
  simp [Expression.parameters, Expression.pieces]

/-- The parameters of a conjunction are those of its parts. -/
theorem parameters_conjunction (es : List Expression) :
    (Expression.conjunction es).parameters = es.flatMap Expression.parameters :=
  flatMap_conjunction parameters_and rfl es

/-! ## Clauses -/

/-- The pieces of a statement before its condition. -/
def Select.front (q : Select) : List Piece :=
  .fixed "SELECT " :: commaSeparated (q.columns.map Expression.pieces)
    ++ [.fixed " ", .fixed "FROM ", .identifier q.table, .fixed " AS ", .identifier q.tableAlias]
    ++ q.joins.flatMap Join.pieces

/-- The pieces of a statement after its condition. -/
def Select.back (q : Select) : List Piece := orderPieces q.order ++ limitPieces q.limit

theorem Select.pieces_eq (q : Select) : q.pieces = q.front ++ conditionPieces q.condition ++ q.back := by
  rw [pieces, front, back, List.append_assoc _ (orderPieces q.order)]

theorem Select.parametersOf_front (q : Select) : parametersOf q.front =
    q.columns.flatMap Expression.parameters ++ q.joins.flatMap fun j => j.condition.parameters := by
  have hjoins : parametersOf (q.joins.flatMap Join.pieces) = q.joins.flatMap fun j => j.condition.parameters := by
    rw [parametersOf, List.flatMap_assoc]
    rfl
  simp [front, parametersOf_expressions, hjoins]

theorem parametersOf_orderPieces (keys : List OrderKey) :
    parametersOf (orderPieces keys) = keys.flatMap fun k => k.subject.parameters := by
  have hkey (k : OrderKey) : parametersOf k.pieces = k.subject.parameters := by
    simp [OrderKey.pieces, Expression.parameters]
  cases keys with
  | nil => rfl
  | cons k rest => simp [orderPieces, parametersOf_commaSeparated, List.flatMap_map, hkey]

theorem parametersOf_limitPieces (limit : Option Nat) : parametersOf (limitPieces limit) = [] := by
  cases limit <;> rfl

theorem Select.parametersOf_back (q : Select) :
    parametersOf q.back = q.order.flatMap fun k => k.subject.parameters := by
  rw [back, parametersOf_append, parametersOf_orderPieces, parametersOf_limitPieces, List.append_nil]

theorem parametersOf_conditionPieces (e : Expression) : parametersOf (conditionPieces e) = e.parameters := by
  unfold conditionPieces
  by_cases htrue : e.isTrue = true
  · rw [(isTrue_eq_true_iff e).1 htrue]
    rfl
  · rw [if_neg htrue]
    rfl

/-- The parameters of a statement are those of its pieces. -/
theorem parameters_render (q : Select) : (q.render .empty).parameters = parametersOf q.pieces := by
  rw [q.render_eq_appendAll, parameters_appendAll]
  rfl

/-- The parameters of a statement are those of its condition and of what stands before and after it. -/
theorem parameters_render_eq (q : Select) : (q.render .empty).parameters =
    parametersOf q.front ++ q.condition.parameters ++ parametersOf q.back := by
  rw [parameters_render, q.pieces_eq, parametersOf_append, parametersOf_append, parametersOf_conditionPieces]

/-- The first part of a conjunction stands behind nothing but opening brackets. -/
theorem exists_pieces_foldl_and (e : Expression) (fs : List Expression) :
    ∃ before after, (fs.foldl .and e).pieces = before ++ e.pieces ++ after ∧ parametersOf before = []
      ∧ parametersOf after = fs.flatMap Expression.parameters := by
  induction fs generalizing e with
  | nil => exact ⟨[], [], by simp⟩
  | cons f rest ih =>
      obtain ⟨before, after, hpieces, hbefore, hafter⟩ := ih (.and e f)
      refine ⟨before ++ [.fixed "("], .fixed " AND " :: f.pieces ++ [.fixed ")"] ++ after, ?_, ?_, ?_⟩
      · rw [List.foldl_cons, hpieces, Expression.pieces]
        simp
      · simp [hbefore]
      · simp [hafter, Expression.parameters]

/-- Around a part of a conjunction stand the parameters of the parts before it and of those after it. -/
theorem exists_pieces_conjunction (es : List Expression) (e : Expression) (fs : List Expression) :
    ∃ before after, (Expression.conjunction (es ++ e :: fs)).pieces = before ++ e.pieces ++ after
      ∧ parametersOf before = es.flatMap Expression.parameters
      ∧ parametersOf after = fs.flatMap Expression.parameters := by
  cases es with
  | nil => exact exists_pieces_foldl_and e fs
  | cons g rest =>
      -- the parts before it are one expression on the left of the same bracket
      obtain ⟨before, after, hpieces, hbefore, hafter⟩ := exists_pieces_foldl_and (.and (rest.foldl .and g) e) fs
      have hleft : parametersOf (rest.foldl Expression.and g).pieces =
          g.parameters ++ rest.flatMap Expression.parameters := flatMap_foldl_and parameters_and g rest
      refine ⟨before ++ .fixed "(" :: (rest.foldl Expression.and g).pieces ++ [.fixed " AND "], .fixed ")" :: after,
        ?_, ?_, ?_⟩
      · rw [List.cons_append, Expression.conjunction, List.foldl_append, List.foldl_cons, hpieces, Expression.pieces]
        simp
      · simp [hbefore, hleft]
      · simp [hafter]

/-! ## Placeholders -/

/-- The number of a lexeme that is a placeholder. -/
def Lexeme.placeholder? : Lexeme → Option Nat
  | .quoted _ => none
  | .placeholder n => some n
  | .char _ => none
  | .unclosed _ => none

/-- The numbers of the placeholders in a text, from left to right. -/
def placeholders (text : String) : List Nat := (lex text.toList).filterMap Lexeme.placeholder?

/-- The placeholders of pieces count their parameters, on from those before them. -/
theorem filterMap_placeholder?_lexemesOf (k : Nat) (ps : List Piece) :
    (lexemesOf k ps).filterMap Lexeme.placeholder? = List.range' (k + 1) (parametersOf ps).length := by
  have hchars := filterMap_map_char (f := Lexeme.placeholder?) fun _ => rfl
  induction ps generalizing k with
  | nil => rfl
  | cons p ps ih =>
      cases p with
      | fixed text =>
          rw [lexemesOf, List.filterMap_append, hchars, ih]
          rfl
      | identifier name =>
          rw [lexemesOf, List.filterMap_cons, ih]
          rfl
      | number n =>
          rw [lexemesOf, List.filterMap_append, hchars, ih]
          rfl
      | parameter value =>
          rw [lexemesOf, List.filterMap_cons, ih, parametersOf_cons, Piece.parameters, List.singleton_append,
            List.length_cons, List.range'_succ]
          rfl

theorem lexemesOf_append (k : Nat) (ps qs : List Piece) :
    lexemesOf k (ps ++ qs) = lexemesOf k ps ++ lexemesOf (k + (parametersOf ps).length) qs := by
  induction ps generalizing k with
  | nil => rfl
  | cons p ps ih =>
      cases p with
      | parameter value =>
          have hcount : k + 1 + (parametersOf ps).length = k + (parametersOf (.parameter value :: ps)).length := by
            simp only [parametersOf_cons, Piece.parameters, List.length_append, List.length_singleton]
            omega
          rw [List.cons_append, lexemesOf, lexemesOf, ih, hcount]
          rfl
      | _ => simp [lexemesOf, ih]

theorem charsOf_append (k : Nat) (ps qs : List Piece) :
    charsOf k (ps ++ qs) = charsOf k ps ++ charsOf (k + (parametersOf ps).length) qs := by
  induction ps generalizing k with
  | nil => rfl
  | cons p ps ih =>
      rw [List.cons_append, charsOf, charsOf, ih, parametersOf_cons, List.length_append, List.append_assoc,
        Nat.add_assoc]

/-! ## Parts of a text -/

/-- A text is cut into three parts of which each is read on its own. -/
structure IsCut (text left own right : String) : Prop where
  text_eq : text = left ++ own ++ right
  lex_eq : lex text.toList = lex left.toList ++ lex own.toList ++ lex right.toList

theorem IsSeparated.of_isInfix {ps qs : List Piece} (h : IsSeparated qs) (hpart : ps <:+: qs) : IsSeparated ps :=
  ⟨fun text htext => h.words_plain text (hpart.subset htext), h.chain.infix hpart⟩

/-- The placeholders in the text of pieces count the parameters of these pieces. -/
theorem placeholders_charsOf {ps : List Piece} (h : IsSeparated ps) (k : Nat) :
    placeholders (String.ofList (charsOf k ps)) = List.range' (k + 1) (parametersOf ps).length := by
  rw [placeholders, String.toList_ofList, lex_charsOf_nil h, filterMap_placeholder?_lexemesOf]

/-- The placeholders in the text of a statement count its parameters. -/
theorem placeholders_render (q : Select) :
    placeholders (q.render .empty).text = List.range' 1 (q.render .empty).parameters.length := by
  rw [placeholders, lex_render, filterMap_placeholder?_lexemesOf, parameters_render]

/-- Rendering an expression appends its text, which depends on how many parameters there are, and its parameters. -/
theorem render_eq_mk (e : Expression) (cs : List Char) (parameters : List Json.Value) :
    e.render ⟨.ofList cs, parameters⟩ =
      ⟨.ofList cs ++ .ofList (charsOf parameters.length e.pieces), parameters ++ e.parameters⟩ := by
  have htext : (e.render ⟨.ofList cs, parameters⟩).text =
      .ofList cs ++ .ofList (charsOf parameters.length e.pieces) := by
    rw [e.render_eq_appendAll, ← String.toList_inj, toList_text_appendAll, String.toList_append, String.toList_ofList,
      String.toList_ofList]
  have hparameters : (e.render ⟨.ofList cs, parameters⟩).parameters = parameters ++ e.parameters := by
    rw [e.render_eq_appendAll, parameters_appendAll]
    rfl
  rw [← htext, ← hparameters]

/-- An expression whose pieces are a part of a statement has a part of the text: it is what rendering the expression
appends to the parts before it, and its placeholders count its own parameters. -/
theorem exists_isCut {q : Select} {before after : List Piece} {e : Expression}
    (h : q.pieces = before ++ e.pieces ++ after) :
    ∃ left own right, IsCut (q.render .empty).text left own right
      ∧ e.render ⟨left, parametersOf before⟩ = ⟨left ++ own, parametersOf before ++ e.parameters⟩
      ∧ placeholders left = List.range' 1 (parametersOf before).length
      ∧ placeholders own = List.range' ((parametersOf before).length + 1) e.parameters.length
      ∧ placeholders right =
        List.range' ((parametersOf before ++ e.parameters).length + 1) (parametersOf after).length := by
  have hseparated : IsSeparated (before ++ e.pieces ++ after) := h ▸ isSeparated_select q
  have hbefore : IsSeparated before := hseparated.of_isInfix ⟨[], e.pieces ++ after, by simp⟩
  have hafter : IsSeparated after := hseparated.of_isInfix ⟨before ++ e.pieces, [], by simp⟩
  have hcount : (parametersOf (before ++ e.pieces)).length = (parametersOf before ++ e.parameters).length := by
    rw [parametersOf_append]
    rfl
  have hchars : (q.render .empty).text.toList =
      charsOf 0 before ++ charsOf (parametersOf before).length e.pieces
        ++ charsOf (parametersOf before ++ e.parameters).length after := by
    rw [toList_text_render, h, charsOf_append, charsOf_append, Nat.zero_add, Nat.zero_add, hcount]
  have hlexemes : lex (q.render .empty).text.toList =
      lexemesOf 0 before ++ lexemesOf (parametersOf before).length e.pieces
        ++ lexemesOf (parametersOf before ++ e.parameters).length after := by
    rw [lex_render, h, lexemesOf_append, lexemesOf_append, Nat.zero_add, Nat.zero_add, hcount]
  refine ⟨.ofList (charsOf 0 before), .ofList (charsOf _ e.pieces), .ofList (charsOf _ after), ⟨?_, ?_⟩,
    render_eq_mk e _ _, placeholders_charsOf hbefore 0, placeholders_charsOf (isSeparated_expression e) _,
    placeholders_charsOf hafter _⟩
  · rw [← String.toList_inj, hchars]
    simp
  · rw [hlexemes]
    simp only [String.toList_ofList, lex_charsOf_nil hbefore, lex_charsOf_nil hafter,
      lex_charsOf_nil (isSeparated_expression e)]

/-! ## The word before a condition -/

/-- The characters of a piece that is a fixed word. -/
def Piece.wordChars : Piece → List Char
  | .fixed text => text.toList
  | .identifier _ => []
  | .number _ => []
  | .parameter _ => []

attribute [simp] Piece.wordChars

/-- A character outside identifiers that is no digit is one of a fixed word. -/
theorem mem_wordChars_of_mem_lexemesOf {c : Char} (hc : c.isDigit = false) {k : Nat} {ps : List Piece}
    (h : .char c ∈ lexemesOf k ps) : c ∈ ps.flatMap Piece.wordChars := by
  induction ps generalizing k with
  | nil => exact absurd h List.not_mem_nil
  | cons p ps ih =>
      rw [List.flatMap_cons, List.mem_append]
      cases p with
      | fixed text =>
          rcases List.mem_append.1 h with h | h
          · obtain ⟨d, hd, heq⟩ := List.mem_map.1 h
            exact .inl (Lexeme.char.inj heq ▸ hd)
          · exact .inr (ih h)
      | identifier name =>
          rcases List.mem_cons.1 h with h | h
          · cases h
          · exact .inr (ih h)
      | number n =>
          rcases List.mem_append.1 h with h | h
          · obtain ⟨d, hd, heq⟩ := List.mem_map.1 h
            have hdigit := isDigit_of_mem_toString hd
            rw [Lexeme.char.inj heq, hc] at hdigit
            cases hdigit
          · exact .inr (ih h)
      | parameter value =>
          rcases List.mem_cons.1 h with h | h
          · cases h
          · exact .inr (ih h)

theorem not_mem_wordChars_commaSeparated {α : Type} {f : α → List Piece} {l : List α} {c : Char}
    (hc : c ∉ ", ".toList) (h : ∀ a ∈ l, c ∉ (f a).flatMap Piece.wordChars) :
    c ∉ (commaSeparated (l.map f)).flatMap Piece.wordChars := by
  induction l with
  | nil => exact List.not_mem_nil
  | cons a rest ih =>
      rw [List.forall_mem_cons] at h
      cases rest with
      | nil => exact h.1
      | cons b rest =>
          rw [commaSeparated_map_cons, List.flatMap_append, List.flatMap_cons, List.mem_append, List.mem_append,
            not_or, not_or]
          exact ⟨h.1, hc, ih h.2⟩

/-- No word of an expression has the letter by which the word before a condition is told from all others. -/
theorem Expression.not_mem_wordChars (e : Expression) : 'H' ∉ e.pieces.flatMap Piece.wordChars := by
  have hoperator (o : Operator) : 'H' ∉ o.word.toList := by
    cases o <;> decide
  have htype (type : CastType) : 'H' ∉ type.word.toList := by
    cases type with
    | base type => cases type <;> decide
    | array type => cases type <;> decide
  induction e with
  | column table name => simp [pieces]
  | boolean b => cases b <;> simp [pieces]
  | parameter value => simp [pieces]
  | and left right hleft hright => simp [pieces, hleft, hright]
  | binary left operator right hleft hright => simp [pieces, hleft, hright, hoperator]
  | between subject low high hsubject hlow hhigh => simp [pieces, hsubject, hlow, hhigh]
  | any arguments harguments =>
      have hitems := not_mem_wordChars_commaSeparated (by decide) harguments
      simp [pieces, piecesOfEach_eq_map, hitems]
  | cast subject type hsubject => simp [pieces, hsubject, htype]

theorem Select.not_mem_wordChars_front (q : Select) : 'H' ∉ q.front.flatMap Piece.wordChars := by
  have hcolumns : 'H' ∉ (commaSeparated (q.columns.map Expression.pieces)).flatMap Piece.wordChars :=
    not_mem_wordChars_commaSeparated (by decide) fun e _ => e.not_mem_wordChars
  have hjoin (j : Join) : 'H' ∉ j.pieces.flatMap Piece.wordChars := by
    have hkind : 'H' ∉ (joinWord j.kind).toList := by
      cases j.kind <;> decide
    simp [Join.pieces, hkind, j.condition.not_mem_wordChars]
  have hjoins : 'H' ∉ (q.joins.flatMap Join.pieces).flatMap Piece.wordChars := by
    rw [List.flatMap_assoc, List.mem_flatMap]
    rintro ⟨j, -, hj⟩
    exact hjoin j hj
  simp [front, hcolumns, hjoins]

theorem Select.not_mem_wordChars_back (q : Select) : 'H' ∉ q.back.flatMap Piece.wordChars := by
  have hkey (k : OrderKey) : 'H' ∉ k.pieces.flatMap Piece.wordChars := by
    have hdirection : 'H' ∉ k.direction.word.toList := by
      cases k.direction <;> decide
    simp [OrderKey.pieces, hdirection, k.subject.not_mem_wordChars]
  have horder : 'H' ∉ (orderPieces q.order).flatMap Piece.wordChars := by
    cases q.order with
    | nil => exact List.not_mem_nil
    | cons k rest =>
        rw [orderPieces, List.flatMap_cons, List.mem_append, not_or]
        exact ⟨by decide, not_mem_wordChars_commaSeparated (by decide) fun k _ => hkey k⟩
  have hlimit : 'H' ∉ (limitPieces q.limit).flatMap Piece.wordChars := by
    cases q.limit <;> simp [limitPieces]
  simp [back, horder, hlimit]

/-- The word before a condition stands in the text of a statement, outside its identifiers, exactly if the condition is
not the literal true. -/
theorem where_isInfix_lex_iff (q : Select) :
    " WHERE ".toList.map Lexeme.char <:+: lex (q.render .empty).text.toList ↔ q.condition ≠ .boolean true := by
  rw [lex_render, q.pieces_eq, ← not_iff_not, not_not, ← isTrue_eq_true_iff, conditionPieces]
  by_cases htrue : q.condition.isTrue = true
  · refine iff_of_true ?_ htrue
    rw [if_pos htrue, List.append_nil]
    intro hword
    -- the word has an H, and no word in the clauses that are left has one
    have hchars := mem_wordChars_of_mem_lexemesOf (c := 'H') (by decide) (hword.subset (by decide))
    rw [List.flatMap_append, List.mem_append] at hchars
    exact hchars.elim q.not_mem_wordChars_front q.not_mem_wordChars_back
  · refine iff_of_false (not_not.2 ?_) htrue
    rw [if_neg htrue, lexemesOf_append, lexemesOf_append, List.append_assoc, lexemesOf, List.append_assoc]
    exact ⟨_, _, List.append_assoc _ _ _⟩

end QueryGate.Statement
