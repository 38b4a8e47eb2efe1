import QueryGate.Statement.Render
/-!
A statement as a row of pieces: fixed words, identifiers, numbers and parameters. A syntax tree determines its pieces,
and rendering it appends them one after the other. What a builder holds already matters in one way only: a placeholder
counts the parameters before it.
-/
set_option autoImplicit false

namespace QueryGate.Statement

/-- The expressions in an expression are built before it. -/
@[elab_as_elim, induction_eliminator]
theorem Expression.induction {motive : Expression → Prop}
    (column : ∀ table name, motive (.column table name))
    (boolean : ∀ value, motive (.boolean value))
    (parameter : ∀ value, motive (.parameter value))
    (and : ∀ left right, motive left → motive right → motive (.and left right))
    (binary : ∀ left operator right, motive left → motive right → motive (.binary left operator right))
    (between : ∀ subject low high, motive subject → motive low → motive high → motive (.between subject low high))
    (any : ∀ arguments, (∀ e ∈ arguments, motive e) → motive (.any arguments))
    (cast : ∀ subject type, motive subject → motive (.cast subject type)) (e : Expression) : motive e := by
  -- lists of expressions have a motive of their own in the recursor
  refine @Expression.rec motive (fun es => ∀ e ∈ es, motive e) column boolean parameter and binary between any cast
    ?_ ?_ e
  · simp
  · intro e rest he hrest
    exact List.forall_mem_cons.2 ⟨he, hrest⟩

/-! ## Pieces -/

/-- A piece of a statement. -/
inductive Piece where
  | fixed (text : String)
  | identifier (name : String)
  | number (n : Nat)
  | parameter (value : Json.Value)

/-- The statement with one more piece. -/
def append (s : Statement) : Piece → Statement
  | .fixed text => s.fixed text
  | .identifier name => s.identifier name
  | .number n => s.number n
  | .parameter value => s.parameter value

/-- The statement with some more pieces. -/
def appendAll (s : Statement) (ps : List Piece) : Statement := ps.foldl append s

@[simp] theorem appendAll_nil (s : Statement) : s.appendAll [] = s := rfl

@[simp] theorem appendAll_cons (s : Statement) (p : Piece) (ps : List Piece) :
    s.appendAll (p :: ps) = (s.append p).appendAll ps := rfl

@[simp] theorem appendAll_append (s : Statement) (ps qs : List Piece) :
    s.appendAll (ps ++ qs) = (s.appendAll ps).appendAll qs :=
  List.foldl_append

/-- Some rows of pieces with commas between them. -/
def commaSeparated : List (List Piece) → List Piece
  | [] => []
  | [ps] => ps
  | ps :: qs :: rest => ps ++ .fixed ", " :: commaSeparated (qs :: rest)

theorem commaSeparated_map_cons {α : Type} (f : α → List Piece) (a b : α) (rest : List α) :
    commaSeparated ((a :: b :: rest).map f) = f a ++ .fixed ", " :: commaSeparated ((b :: rest).map f) := rfl

mutual

/-- The pieces of an expression. -/
def Expression.pieces : Expression → List Piece
  | .column table name => [.identifier table, .fixed ".", .identifier name]
  | .boolean b => [.fixed (if b then "true" else "false")]
  | .parameter value => [.parameter value]
  | .and left right => .fixed "(" :: left.pieces ++ .fixed " AND " :: right.pieces ++ [.fixed ")"]
  | .binary left operator right => .fixed "(" :: left.pieces ++ .fixed operator.word :: right.pieces ++ [.fixed ")"]
  | .between subject low high =>
    .fixed "(" :: subject.pieces ++ .fixed " BETWEEN " :: low.pieces ++ .fixed " AND " :: high.pieces ++ [.fixed ")"]
  | .any arguments => .fixed "ANY(" :: commaSeparated (Expression.piecesOfEach arguments) ++ [.fixed ")"]
  | .cast subject type => .fixed "CAST(" :: subject.pieces ++ [.fixed " AS ", .fixed type.word, .fixed ")"]

/-- The pieces of each of some expressions. -/
def Expression.piecesOfEach : List Expression → List (List Piece)
  | [] => []
  | e :: rest => e.pieces :: Expression.piecesOfEach rest

end

theorem piecesOfEach_eq_map (es : List Expression) : Expression.piecesOfEach es = es.map Expression.pieces := by
  induction es with
  | nil => rfl
  | cons e rest ih => rw [Expression.piecesOfEach, List.map_cons, ih]

/-- The pieces of a joined table. -/
def Join.pieces (j : Join) : List Piece :=
  .fixed (joinWord j.kind) :: .identifier j.table :: .fixed " AS " :: .identifier j.tableAlias :: .fixed " ON "
    :: j.condition.pieces

/-- The pieces of a condition; the literal true has none. -/
def conditionPieces (e : Expression) : List Piece := if e.isTrue then [] else .fixed " WHERE " :: e.pieces

/-- The pieces of a key of an order. -/
def OrderKey.pieces (k : OrderKey) : List Piece := k.subject.pieces ++ [.fixed k.direction.word]

/-- The pieces of an order, if there is one. -/
def orderPieces : List OrderKey → List Piece
  | [] => []
  | k :: rest => .fixed " ORDER BY " :: commaSeparated ((k :: rest).map OrderKey.pieces)

/-- The pieces of a limit, if there is one. -/
def limitPieces : Option Nat → List Piece
  | none => []
  | some n => [.fixed " LIMIT ", .number n]

/-- The pieces of a `SELECT`. -/
def Select.pieces (q : Select) : List Piece :=
  .fixed "SELECT " :: commaSeparated (q.columns.map Expression.pieces)
    ++ [.fixed " ", .fixed "FROM ", .identifier q.table, .fixed " AS ", .identifier q.tableAlias]
    ++ q.joins.flatMap Join.pieces ++ conditionPieces q.condition ++ orderPieces q.order ++ limitPieces q.limit

/-! ## Rendering -/

/-- Rendering expressions appends their pieces, if rendering each of them does. -/
theorem renderList_eq_appendAll_of {es : List Expression} (h : ∀ e ∈ es, ∀ s, e.render s = s.appendAll e.pieces)
    (s : Statement) : Expression.renderList es s = s.appendAll (commaSeparated (es.map Expression.pieces)) := by
  induction es generalizing s with
  | nil => rw [Expression.renderList, List.map_nil, commaSeparated, appendAll_nil]
  | cons e rest ih =>
      rw [List.forall_mem_cons] at h
      cases rest with
      | nil =>
          rw [Expression.renderList, h.1, List.map_singleton, commaSeparated]
      | cons f rest =>
          rw [Expression.renderList, h.1, ih h.2, commaSeparated_map_cons, appendAll_append, appendAll_cons]
          rfl

/-- Rendering an expression appends its pieces. -/
theorem Expression.render_eq_appendAll (e : Expression) (s : Statement) : e.render s = s.appendAll e.pieces := by
  induction e generalizing s with
  | column table name => rw [render, pieces]; rfl
  | boolean b => rw [render, pieces]; rfl
  | parameter value => rw [render, pieces]; rfl
  | and left right hleft hright =>
      rw [render, pieces, hleft, hright]
      simp only [appendAll_cons, appendAll_append, List.cons_append, append, appendAll_nil]
  | binary left operator right hleft hright =>
      rw [render, pieces, hleft, hright]
      simp only [appendAll_cons, appendAll_append, List.cons_append, append, appendAll_nil]
  | between subject low high hsubject hlow hhigh =>
      rw [render, pieces, hsubject, hlow, hhigh]
      simp only [appendAll_cons, appendAll_append, List.cons_append, append, appendAll_nil]
  | any arguments harguments =>
      rw [render, pieces, renderList_eq_appendAll_of harguments, piecesOfEach_eq_map]
      simp only [appendAll_cons, appendAll_append, List.cons_append, append, appendAll_nil]
  | cast subject type hsubject =>
      rw [render, pieces, hsubject]
      simp only [appendAll_cons, appendAll_append, List.cons_append, append, appendAll_nil]

/-- Rendering expressions appends their pieces with commas between them. -/
theorem renderList_eq_appendAll (es : List Expression) (s : Statement) :
    Expression.renderList es s = s.appendAll (commaSeparated (es.map Expression.pieces)) :=
  renderList_eq_appendAll_of (fun e _ s => e.render_eq_appendAll s) s

theorem Join.render_eq_appendAll (j : Join) (s : Statement) : j.render s = s.appendAll j.pieces := by
  rw [render, pieces, Expression.render_eq_appendAll]
  rfl

theorem foldl_join_render (joins : List Join) (s : Statement) :
    joins.foldl (fun s j => j.render s) s = s.appendAll (joins.flatMap Join.pieces) := by
  induction joins generalizing s with
  | nil => rfl
  | cons j rest ih => rw [List.foldl_cons, ih, j.render_eq_appendAll, List.flatMap_cons, appendAll_append]

theorem renderCondition_eq_appendAll (e : Expression) (s : Statement) :
    renderCondition e s = s.appendAll (conditionPieces e) := by
  rw [renderCondition, conditionPieces]
  by_cases h : e.isTrue = true
  · rw [if_pos h, if_pos h, appendAll_nil]
  · rw [if_neg h, if_neg h, Expression.render_eq_appendAll]
    rfl

theorem renderKeys_eq_appendAll (keys : List OrderKey) (s : Statement) :
    renderKeys keys s = s.appendAll (commaSeparated (keys.map OrderKey.pieces)) := by
  have hkey : ∀ (k : OrderKey) (s : Statement), k.render s = s.appendAll k.pieces := by
    intro k s
    rw [OrderKey.render, OrderKey.pieces, Expression.render_eq_appendAll, appendAll_append]
    rfl
  induction keys generalizing s with
  | nil => rfl
  | cons k rest ih =>
      cases rest with
      | nil => rw [renderKeys, hkey, List.map_singleton, commaSeparated]
      | cons l rest =>
          rw [renderKeys, hkey, ih, commaSeparated_map_cons, appendAll_append, appendAll_cons]
          rfl

theorem renderOrder_eq_appendAll (keys : List OrderKey) (s : Statement) :
    renderOrder keys s = s.appendAll (orderPieces keys) := by
  cases keys with
  | nil => rfl
  | cons k rest =>
      rw [orderPieces, appendAll_cons]
      exact renderKeys_eq_appendAll (k :: rest) _

theorem renderLimit_eq_appendAll (limit : Option Nat) (s : Statement) :
    renderLimit limit s = s.appendAll (limitPieces limit) := by
  cases limit <;> rfl

/-- Rendering a statement appends its pieces. -/
theorem Select.render_eq_appendAll (q : Select) (s : Statement) : q.render s = s.appendAll q.pieces := by
  rw [render, pieces]
  simp only [renderList_eq_appendAll, foldl_join_render, renderCondition_eq_appendAll, renderOrder_eq_appendAll,
    renderLimit_eq_appendAll, appendAll_append, List.cons_append, appendAll_cons, appendAll_nil]
  rfl

/-! ## Text and parameters -/

/-- The characters of a piece after so many parameters. -/
def Piece.chars (k : Nat) : Piece → List Char
  | .fixed text => text.toList
  | .identifier name => quotedChars name
  | .number n => (toString n).toList
  | .parameter _ => '$' :: (toString (k + 1)).toList

/-- The parameters of a piece. -/
def Piece.parameters : Piece → List Json.Value
  | .fixed _ => []
  | .identifier _ => []
  | .number _ => []
  | .parameter value => [value]

/-- The characters of pieces after so many parameters. -/
def charsOf : Nat → List Piece → List Char
  | _, [] => []
  | k, p :: ps => p.chars k ++ charsOf (k + p.parameters.length) ps

/-- The parameters of a statement are those of its pieces, in their order. -/
theorem parameters_appendAll (s : Statement) (ps : List Piece) :
    (s.appendAll ps).parameters = s.parameters ++ ps.flatMap Piece.parameters := by
  induction ps generalizing s with
  | nil => simp
  | cons p rest ih =>
      have hp : (s.append p).parameters = s.parameters ++ p.parameters := by
        cases p <;> simp [append, fixed, identifier, number, parameter, Piece.parameters]
      rw [appendAll_cons, ih, hp, List.flatMap_cons, List.append_assoc]

/-- The text of a statement is that of its pieces, each after the parameters before it. -/
theorem toList_text_appendAll (s : Statement) (ps : List Piece) :
    (s.appendAll ps).text.toList = s.text.toList ++ charsOf s.parameters.length ps := by
  induction ps generalizing s with
  | nil => simp [charsOf]
  | cons p rest ih =>
      have htext : (s.append p).text.toList = s.text.toList ++ p.chars s.parameters.length := by
        cases p <;> simp [append, fixed, identifier, number, parameter, Piece.chars]
      -- the next piece counts the parameters of this one
      have hlength : (s.append p).parameters.length = s.parameters.length + p.parameters.length := by
        cases p <;> simp [append, fixed, identifier, number, parameter, Piece.parameters]
      rw [appendAll_cons, ih, htext, hlength, charsOf, List.append_assoc]

/-! ## Explaining -/

/-- The word before a statement that is to be explained holds no parameters, so the placeholders after it keep their
numbers. -/
theorem Query.text_explainStatement (q : Query) : q.explainStatement.text = "EXPLAIN " ++ q.statement.text := by
  rw [← String.toList_inj, explainStatement, statement, Select.render_eq_appendAll, Select.render_eq_appendAll,
    toList_text_appendAll, String.toList_append, toList_text_appendAll]
  rfl

theorem Query.parameters_explainStatement (q : Query) : q.explainStatement.parameters = q.statement.parameters := by
  rw [explainStatement, statement, Select.render_eq_appendAll, Select.render_eq_appendAll, parameters_appendAll,
    parameters_appendAll]
  rfl

end QueryGate.Statement
