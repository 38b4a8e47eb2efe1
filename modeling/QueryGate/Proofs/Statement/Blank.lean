import QueryGate.Proofs.Statement.Conjunction
import QueryGate.Proofs.Statement.Piece
/-!
Statements with null in the place of every parameter. Blanking a statement keeps its text and the number of its
parameters, so two statements that are the same when they are blank have the same text.
-/
set_option autoImplicit false

namespace QueryGate.Statement

/-! ## Blank pieces -/

/-- The piece with null in the place of a parameter. -/
def Piece.blank : Piece → Piece
  | .fixed text => .fixed text
  | .identifier name => .identifier name
  | .number n => .number n
  | .parameter _ => .parameter .null

theorem length_parameters_blank (ps : List Piece) :
    ((ps.map Piece.blank).flatMap Piece.parameters).length = (ps.flatMap Piece.parameters).length := by
  have hpiece (p : Piece) : p.blank.parameters.length = p.parameters.length := by
    cases p <;> rfl
  simp only [List.length_flatMap, List.map_map, Function.comp_def, hpiece]

/-- Parameters do not show in the characters of pieces; their number does. -/
theorem charsOf_map_blank (k : Nat) (ps : List Piece) : charsOf k (ps.map Piece.blank) = charsOf k ps := by
  induction ps generalizing k with
  | nil => rfl
  | cons p ps ih =>
      have hchars : p.blank.chars k = p.chars k := by
        cases p <;> rfl
      have hlength : p.blank.parameters.length = p.parameters.length := by
        cases p <;> rfl
      rw [List.map_cons, charsOf, charsOf, hchars, hlength, ih]

theorem map_blank_commaSeparated (rows : List (List Piece)) :
    (commaSeparated rows).map Piece.blank = commaSeparated (rows.map (List.map Piece.blank)) := by
  induction rows with
  | nil => rfl
  | cons ps rest ih =>
      cases rest with
      | nil => rfl
      | cons qs rest =>
          rw [List.map_cons] at ih
          rw [List.map_cons, List.map_cons, commaSeparated, commaSeparated, List.map_append, List.map_cons, ih]
          rfl

/-! ## Blank trees -/

mutual

/-- The expression with null in the place of every parameter. -/
def Expression.blank : Expression → Expression
  | .column table name => .column table name
  | .boolean b => .boolean b
  | .parameter _ => .parameter .null
  | .and left right => .and left.blank right.blank
  | .binary left operator right => .binary left.blank operator right.blank
  | .between subject low high => .between subject.blank low.blank high.blank
  | .any arguments => .any (Expression.blankEach arguments)
  | .cast subject type => .cast subject.blank type

/-- Each of some expressions with null in the place of every parameter. -/
def Expression.blankEach : List Expression → List Expression
  | [] => []
  | e :: rest => e.blank :: Expression.blankEach rest

end

theorem blankEach_eq_map (es : List Expression) : Expression.blankEach es = es.map Expression.blank := by
  induction es with
  | nil => rfl
  | cons e rest ih => rw [Expression.blankEach, List.map_cons, ih]

/-- The statement with null in the place of every parameter. -/
def Select.blank (q : Select) : Select where
  columns := q.columns.map Expression.blank
  table := q.table
  tableAlias := q.tableAlias
  joins := q.joins.map fun j => { j with condition := j.condition.blank }
  condition := q.condition.blank
  order := q.order.map fun k => { k with subject := k.subject.blank }
  limit := q.limit

/-- The query with null in the place of every parameter. -/
def Query.blank (q : Query) : Query := { q with select := q.select.blank }

/-- The pieces of a blank expression are the blank pieces of the expression. -/
theorem Expression.pieces_blank (e : Expression) : e.blank.pieces = e.pieces.map Piece.blank := by
  induction e with
  | column table name => rw [blank, pieces]; rfl
  | boolean b => rw [blank, pieces]; rfl
  | parameter value => rw [blank, pieces, pieces]; rfl
  | and left right hleft hright =>
      rw [blank, pieces, pieces, hleft, hright]
      simp only [List.map_append, List.map_cons, List.map_nil, Piece.blank]
  | binary left operator right hleft hright =>
      rw [blank, pieces, pieces, hleft, hright]
      simp only [List.map_append, List.map_cons, List.map_nil, Piece.blank]
  | between subject low high hsubject hlow hhigh =>
      rw [blank, pieces, pieces, hsubject, hlow, hhigh]
      simp only [List.map_append, List.map_cons, List.map_nil, Piece.blank]
  | any arguments harguments =>
      -- a list is blanked item by item, and so are its pieces
      have heach : arguments.map (fun e => e.blank.pieces) = arguments.map fun e => e.pieces.map Piece.blank :=
        List.map_congr_left harguments
      rw [blank, pieces, pieces, blankEach_eq_map, piecesOfEach_eq_map, piecesOfEach_eq_map, List.map_map]
      simp only [List.map_append, List.map_cons, List.map_nil, Piece.blank, map_blank_commaSeparated, List.map_map,
        Function.comp_def, heach]
  | cast subject type hsubject =>
      rw [blank, pieces, pieces, hsubject]
      simp only [List.map_append, List.map_cons, List.map_nil, Piece.blank]

theorem Expression.isTrue_blank (e : Expression) : e.blank.isTrue = e.isTrue := by
  cases e <;> rfl

theorem conditionPieces_blank (e : Expression) : conditionPieces e.blank = (conditionPieces e).map Piece.blank := by
  rw [conditionPieces, conditionPieces, e.isTrue_blank, e.pieces_blank]
  by_cases htrue : e.isTrue = true
  · rw [if_pos htrue, if_pos htrue, List.map_nil]
  · rw [if_neg htrue, if_neg htrue]
    rfl

theorem orderPieces_blank (keys : List OrderKey) :
    orderPieces (keys.map fun k => { k with subject := k.subject.blank }) = (orderPieces keys).map Piece.blank := by
  have hkey (k : OrderKey) : OrderKey.pieces { k with subject := k.subject.blank } = k.pieces.map Piece.blank := by
    rw [OrderKey.pieces, OrderKey.pieces, Expression.pieces_blank, List.map_append]
    rfl
  cases keys with
  | nil => rfl
  | cons k rest =>
      have hkeys : ((k :: rest).map fun k => { k with subject := k.subject.blank }).map OrderKey.pieces =
          ((k :: rest).map OrderKey.pieces).map (List.map Piece.blank) := by
        rw [List.map_map, List.map_map]
        exact List.map_congr_left fun k _ => hkey k
      have hblank : (orderPieces (k :: rest)).map Piece.blank =
          .fixed " ORDER BY " :: (commaSeparated ((k :: rest).map OrderKey.pieces)).map Piece.blank := rfl
      rw [hblank, map_blank_commaSeparated, ← hkeys]
      rfl

theorem limitPieces_blank (limit : Option Nat) : (limitPieces limit).map Piece.blank = limitPieces limit := by
  cases limit <;> rfl

/-- The pieces of a blank statement are the blank pieces of the statement. -/
theorem Select.pieces_blank (q : Select) : q.blank.pieces = q.pieces.map Piece.blank := by
  have hjoin (j : Join) : Join.pieces { j with condition := j.condition.blank } = j.pieces.map Piece.blank := by
    rw [Join.pieces, Join.pieces, Expression.pieces_blank]
    rfl
  rw [pieces, pieces, blank]
  simp only [conditionPieces_blank, orderPieces_blank, List.map_append, List.map_cons, List.map_nil, List.map_map,
    List.flatMap_map, List.map_flatMap, Function.comp_def, Expression.pieces_blank, hjoin, map_blank_commaSeparated,
    limitPieces_blank, Piece.blank]

/-- A blank statement has the text of the statement and as many parameters. -/
theorem text_render_blank (q : Select) (s : Statement) :
    (q.blank.render s).text = (q.render s).text
      ∧ (q.blank.render s).parameters.length = (q.render s).parameters.length := by
  rw [Select.render_eq_appendAll, Select.render_eq_appendAll, q.pieces_blank]
  constructor
  · rw [← String.toList_inj, toList_text_appendAll, toList_text_appendAll, charsOf_map_blank]
  · rw [parameters_appendAll, parameters_appendAll, List.length_append, List.length_append, length_parameters_blank]

/-- A conjunction is blanked part by part. -/
theorem blank_conjunction (es : List Expression) :
    (Expression.conjunction es).blank = .conjunction (es.map Expression.blank) :=
  map_conjunction rfl (fun _ _ => rfl) es

end QueryGate.Statement
