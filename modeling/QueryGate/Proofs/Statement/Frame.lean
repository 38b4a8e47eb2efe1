import QueryGate.Proofs.Statement.Parts
/-!
Rendering somewhere in a statement. A builder holds the text and the parameters so far, and rendering a syntax tree only
appends to both. What is appended does not depend on the text before it, and on the parameters before it in one way: each
placeholder counts them. So the text that a tree appends anywhere is the one that it gives alone, with the placeholders
renumbered.

Which dollar signs are placeholders is a matter of reading: one inside an identifier is none, whatever digits follow it.
The numbers are therefore changed in the lexemes of a text, and these are written down again.
-/
set_option autoImplicit false

namespace QueryGate.Statement

/-! ## Renumbering -/

/-- The lexeme with so many more parameters before it. -/
def Lexeme.shift (k : Nat) : Lexeme → Lexeme
  | .quoted name => .quoted name
  | .placeholder n => .placeholder (n + k)
  | .char c => .char c
  | .unclosed name => .unclosed name

/-- The characters of a lexeme. -/
def Lexeme.chars : Lexeme → List Char
  | .quoted name => quotedChars (.ofList name)
  | .placeholder n => '$' :: (toString n).toList
  | .char c => [c]
  | .unclosed name => '"' :: name.flatMap fun c => if c = '"' then ['"', '"'] else [c]

/-- A text with so many more parameters before it: its placeholders have greater numbers, and all else in it is the
same, what looks like a placeholder inside an identifier included. -/
def renumber (k : Nat) (text : String) : String :=
  .ofList (((lex text.toList).map (Lexeme.shift k)).flatMap Lexeme.chars)

theorem flatMap_chars_map_char (cs : List Char) : (cs.map Lexeme.char).flatMap Lexeme.chars = cs := by
  rw [List.flatMap_map]
  exact List.flatMap_singleton' cs

/-- The characters of pieces are those of their lexemes. -/
theorem flatMap_chars_lexemesOf (k : Nat) (ps : List Piece) :
    (lexemesOf k ps).flatMap Lexeme.chars = charsOf k ps := by
  induction ps generalizing k with
  | nil => rfl
  | cons p ps ih =>
      cases p with
      | fixed text =>
          rw [lexemesOf, List.flatMap_append, flatMap_chars_map_char, ih]
          rfl
      | identifier name =>
          rw [lexemesOf, List.flatMap_cons, Lexeme.chars, String.ofList_toList, ih]
          rfl
      | number n =>
          rw [lexemesOf, List.flatMap_append, flatMap_chars_map_char, ih]
          rfl
      | parameter value =>
          rw [lexemesOf, List.flatMap_cons, ih]
          rfl

/-- Pieces after some more parameters have the same lexemes with greater placeholders. -/
theorem map_shift_lexemesOf (k m : Nat) (ps : List Piece) :
    (lexemesOf m ps).map (Lexeme.shift k) = lexemesOf (m + k) ps := by
  have hchars (cs : List Char) : (cs.map Lexeme.char).map (Lexeme.shift k) = cs.map Lexeme.char := by
    rw [List.map_map]
    rfl
  induction ps generalizing m with
  | nil => rfl
  | cons p ps ih =>
      cases p with
      | fixed text => rw [lexemesOf, List.map_append, hchars, ih, lexemesOf]
      | identifier name => rw [lexemesOf, List.map_cons, ih, lexemesOf, Lexeme.shift]
      | number n => rw [lexemesOf, List.map_append, hchars, ih, lexemesOf]
      | parameter value =>
          rw [lexemesOf, List.map_cons, ih, lexemesOf, Lexeme.shift, Nat.add_right_comm m 1 k]

/-- The text of pieces on their own, renumbered, is their text after some parameters. -/
theorem renumber_charsOf {ps : List Piece} (h : IsSeparated ps) (k : Nat) :
    renumber k (.ofList (charsOf 0 ps)) = .ofList (charsOf k ps) := by
  rw [renumber, String.toList_ofList, lex_charsOf_nil h, map_shift_lexemesOf, Nat.zero_add, flatMap_chars_lexemesOf]

/-! ## Parameters of syntax trees -/

mutual

/-- The parameters in an expression, from left to right. -/
def Expression.leaves : Expression → List Json.Value
  | .column _ _ => []
  | .boolean _ => []
  | .parameter value => [value]
  | .and left right => left.leaves ++ right.leaves
  | .binary left _ right => left.leaves ++ right.leaves
  | .between subject low high => subject.leaves ++ low.leaves ++ high.leaves
  | .any arguments => Expression.leavesOfEach arguments
  | .cast subject _ => subject.leaves

/-- The parameters in some expressions. -/
def Expression.leavesOfEach : List Expression → List Json.Value
  | [] => []
  | e :: rest => e.leaves ++ Expression.leavesOfEach rest

end

/-- The parameters of the pieces of an expression are those in the expression. -/
theorem Expression.parameters_eq_leaves (e : Expression) : e.parameters = e.leaves := by
  induction e with
  | column table name => rfl
  | boolean b => rfl
  | parameter value => rfl
  | and left right hleft hright => rw [parameters_and, hleft, hright, leaves]
  | binary left operator right hleft hright =>
      rw [leaves, ← hleft, ← hright]
      simp [parameters, pieces]
  | between subject low high hsubject hlow hhigh =>
      rw [leaves, ← hsubject, ← hlow, ← hhigh]
      simp [parameters, pieces]
  | any arguments harguments =>
      -- the hypothesis is on each argument, so the list of them needs an induction of its own
      have heach : leavesOfEach arguments = arguments.flatMap Expression.parameters := by
        induction arguments with
        | nil => rfl
        | cons e rest ih =>
            rw [List.forall_mem_cons] at harguments
            rw [leavesOfEach, List.flatMap_cons, harguments.1, ih harguments.2]
      rw [leaves, heach, ← parametersOf_expressions, ← piecesOfEach_eq_map]
      simp [parameters, pieces]
  | cast subject type hsubject =>
      rw [leaves, ← hsubject]
      simp [parameters, pieces]

/-! ## Syntax trees -/

/-- A syntax tree of a statement or of a part of one. -/
inductive Node where
  | expression (e : Expression)
  | columns (es : List Expression)
  | join (j : Join)
  | condition (e : Expression)
  | order (keys : List OrderKey)
  | limit (bound : Option Nat)
  | select (q : Select)
  /-- A statement that is to be explained. -/
  | explanation (q : Select)

namespace Node

/-- Appends a syntax tree. -/
def render : Node → Statement → Statement
  | .expression e, s => e.render s
  | .columns es, s => Expression.renderList es s
  | .join j, s => j.render s
  | .condition e, s => renderCondition e s
  | .order keys, s => renderOrder keys s
  | .limit bound, s => renderLimit bound s
  | .select q, s => q.render s
  | .explanation q, s => q.render (s.fixed "EXPLAIN ")

/-- The parameters in a syntax tree, from left to right. -/
def leaves : Node → List Json.Value
  | .expression e => e.leaves
  | .columns es => es.flatMap Expression.leaves
  | .join j => j.condition.leaves
  | .condition e => e.leaves
  | .order keys => keys.flatMap fun k => k.subject.leaves
  | .limit _ => []
  | .select q | .explanation q =>
    q.columns.flatMap Expression.leaves ++ q.joins.flatMap (fun j => j.condition.leaves) ++ q.condition.leaves
      ++ q.order.flatMap fun k => k.subject.leaves

/-- The pieces of a syntax tree. -/
def pieces : Node → List Piece
  | .expression e => e.pieces
  | .columns es => commaSeparated (es.map Expression.pieces)
  | .join j => j.pieces
  | .condition e => conditionPieces e
  | .order keys => orderPieces keys
  | .limit bound => limitPieces bound
  | .select q => q.pieces
  | .explanation q => .fixed "EXPLAIN " :: q.pieces

theorem render_eq_appendAll (node : Node) (s : Statement) : node.render s = s.appendAll node.pieces := by
  cases node with
  | expression e => exact e.render_eq_appendAll s
  | columns es => exact renderList_eq_appendAll es s
  | join j => exact j.render_eq_appendAll s
  | condition e => exact renderCondition_eq_appendAll e s
  | order keys => exact renderOrder_eq_appendAll keys s
  | limit bound => exact renderLimit_eq_appendAll bound s
  | select q => exact q.render_eq_appendAll s
  | explanation q => exact q.render_eq_appendAll (s.fixed "EXPLAIN ")

theorem isSeparated_pieces (node : Node) : IsSeparated node.pieces := by
  cases node with
  | expression e => exact isSeparated_expression e
  | columns es => exact isSeparated_columns es
  | join j => exact isSeparated_join j
  | condition e => exact isSeparated_condition e
  | order keys => exact isSeparated_order keys
  | limit bound => exact isSeparated_limit bound
  | select q => exact isSeparated_select q
  | explanation q => exact isSeparated_cons (by decide) (isSeparated_select q)

/-- The parameters of the pieces of a syntax tree are those in the tree. -/
theorem parametersOf_pieces (node : Node) : parametersOf node.pieces = node.leaves := by
  have hexpression : Expression.parameters = Expression.leaves := funext Expression.parameters_eq_leaves
  have hselect (q : Select) : parametersOf q.pieces = (Node.select q).leaves := by
    rw [q.pieces_eq, parametersOf_append, parametersOf_append, q.parametersOf_front, q.parametersOf_back,
      parametersOf_conditionPieces, hexpression]
    rfl
  cases node with
  | expression e => exact e.parameters_eq_leaves
  | columns es => rw [pieces, parametersOf_expressions, hexpression, leaves]
  | join j => exact j.condition.parameters_eq_leaves
  | condition e => exact (parametersOf_conditionPieces e).trans e.parameters_eq_leaves
  | order keys => rw [pieces, parametersOf_orderPieces, hexpression, leaves]
  | limit bound => exact parametersOf_limitPieces bound
  | select q => exact hselect q
  | explanation q => exact hselect q

/-- The text of a syntax tree that is rendered alone is that of its pieces. -/
theorem text_render_empty (node : Node) : (node.render .empty).text = .ofList (charsOf 0 node.pieces) := by
  rw [← String.toList_inj, node.render_eq_appendAll, toList_text_appendAll, String.toList_ofList]
  rfl

end Node

/-! ## Rendering anywhere -/

/-- Rendering a syntax tree alone and renumbering is rendering its pieces after some parameters. -/
theorem renumber_text_render (node : Node) (k : Nat) :
    renumber k (node.render .empty).text = .ofList (charsOf k node.pieces) := by
  rw [node.text_render_empty, renumber_charsOf node.isSeparated_pieces]

/-- Rendering a syntax tree leaves what a builder holds as it is and appends to it: to the text the one that the tree
gives alone, with its placeholders counted on from the parameters that the builder holds, and to the parameters those in
the tree from left to right. So the statement that asks how a query would be run is a word before the query, with the
same parameters. -/
theorem render_append :
    (∀ (node : Node) (s : Statement),
      (node.render s).text = s.text ++ renumber s.parameters.length (node.render .empty).text
        ∧ (node.render s).parameters = s.parameters ++ node.leaves
        ∧ lex (renumber s.parameters.length (node.render .empty).text).toList =
          (lex (node.render .empty).text.toList).map (Lexeme.shift s.parameters.length))
      ∧ ∀ q : Query, q.statement = (Node.select q.select).render .empty
        ∧ q.explainStatement = (Node.explanation q.select).render .empty
        ∧ q.explainStatement.text = "EXPLAIN " ++ q.statement.text
        ∧ q.explainStatement.parameters = q.statement.parameters := by
  refine ⟨?_, fun q => ⟨rfl, rfl, q.text_explainStatement, q.parameters_explainStatement⟩⟩
  intro node s
  refine ⟨?_, ?_, ?_⟩
  · rw [renumber_text_render, ← String.toList_inj, node.render_eq_appendAll, toList_text_appendAll,
      String.toList_append, String.toList_ofList]
  · rw [node.render_eq_appendAll, parameters_appendAll, ← node.parametersOf_pieces]
    rfl
  · -- both texts are read back as the lexemes of the same pieces, after so many parameters and after none
    rw [renumber_text_render, node.text_render_empty, String.toList_ofList, String.toList_ofList,
      lex_charsOf_nil node.isSeparated_pieces, lex_charsOf_nil node.isSeparated_pieces, map_shift_lexemesOf,
      Nat.zero_add]

/-- Behind two parameters a placeholder becomes the third, and a dollar sign in an identifier stays what it is. -/
example : renumber 2 "(\"a$1\".\"b\" = CAST($1 AS text))" = "(\"a$1\".\"b\" = CAST($3 AS text))" := by decide

end QueryGate.Statement
