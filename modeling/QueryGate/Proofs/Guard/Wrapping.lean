import QueryGate.Proofs.Guard.Columns
import QueryGate.Proofs.Statement.Brackets
import QueryGate.Proofs.Statement.RoundTrip
/-!
A statement whose rows are wrapped as objects is read as the wrapper around the statement, whatever its identifiers and
the names of the columns are. The words of the wrapper stand on both sides of the statement, so no identifier and no
placeholder of it runs on into them. What a column is called stays within the quotes of its own identifier.
-/
set_option autoImplicit false

namespace QueryGate.Guard

open Statement

/-! ## The wrapper -/

/-- The lexemes before the statement that is wrapped: they end in a bracket for it. -/
def frontLexemes : List Lexeme :=
  "SELECT row_to_json(".toList.map .char ++ .quoted "rows".toList :: ") FROM (".toList.map .char

/-- The lexemes after it, from the bracket that closes it to the alias of its rows. -/
def backLexemes : List Lexeme := ") AS ".toList.map .char ++ [.quoted "rows".toList]

/-- The lexemes of a list of columns in brackets, with commas between them; without columns there is no list. -/
def columnLexemes : List String → List Lexeme
  | [] => []
  | c :: cs =>
    .char '(' :: .quoted c.toList :: cs.flatMap (fun d => [.char ',', .char ' ', .quoted d.toList]) ++ [.char ')']

/-- The pieces of the wrapper before the statement. -/
def frontPieces : List Piece := [.fixed "SELECT row_to_json(", .identifier "rows", .fixed ") FROM ("]

/-- The pieces of a list of columns. -/
def columnPieces : List String → List Piece
  | [] => []
  | c :: cs => .fixed "(" :: commaSeparated ((c :: cs).map fun name => [.identifier name]) ++ [.fixed ")"]

/-- The pieces of the wrapper after the statement. -/
def backPieces (columns : List String) : List Piece := .fixed ") AS " :: .identifier "rows" :: columnPieces columns

theorem toList_intercalate_quoted (columns : List String) :
    (String.intercalate ", " (columns.map fun name => String.ofList (quotedChars name))).toList =
      charsOf 0 (commaSeparated (columns.map fun name => [.identifier name])) := by
  induction columns with
  | nil => rfl
  | cons c rest ih =>
      cases rest with
      | nil => simp [commaSeparated, charsOf, Piece.chars]
      | cons d rest =>
          rw [List.map_cons] at ih
          rw [commaSeparated_map_cons, List.map_cons, List.map_cons, String.intercalate_cons_cons, String.toList_append,
            String.toList_append, ih]
          simp [charsOf, Piece.chars]

/-- The text of the wrapper is that of its pieces. -/
theorem toList_rowsAsObjects (text : String) (columns : List String) :
    (rowsAsObjects text columns).toList =
      charsOf 0 frontPieces ++ (text.toList ++ charsOf 0 (backPieces columns)) := by
  have hfront : charsOf 0 frontPieces = "SELECT row_to_json(\"rows\") FROM (".toList := by
    simp [frontPieces, charsOf, Piece.chars, quotedChars]
  have hback : ") AS \"rows\"".toList = ") AS ".toList ++ quotedChars "rows" := by
    simp [quotedChars]
  rw [hfront, backPieces, charsOf, charsOf]
  unfold rowsAsObjects
  cases columns with
  | nil => simp [columnPieces, charsOf, Piece.chars, hback]
  | cons c cs =>
      have hlist : charsOf 0 (columnPieces (c :: cs)) = '(' ::
          charsOf 0 (commaSeparated ((c :: cs).map fun name => [.identifier name])) ++ [')'] := by
        rw [columnPieces, charsOf_append]
        rfl
      simp only [String.toList_append, toList_intercalate_quoted, Piece.chars, Piece.parameters, hback]
      simp [hlist]

/-! ## Reading what is wrapped -/

theorem isSeparated_frontPieces : IsSeparated frontPieces :=
  isSeparated_cons rfl (isSeparated_identifier_cons "rows" rfl isSeparated_nil)

theorem isSeparated_backPieces (columns : List String) : IsSeparated (backPieces columns) := by
  unfold backPieces
  apply isSeparated_cons rfl
  cases columns with
  | nil => exact isSeparated_identifier "rows"
  | cons c cs =>
      refine isSeparated_identifier_cons "rows" rfl (isSeparated_append_cons ?_ rfl isSeparated_nil)
      exact isSeparated_commaSeparated (List.forall_mem_map.2 fun name _ => isSeparated_identifier name)

/-- The lexemes of the columns of the list, each an identifier. -/
theorem lexemesOf_commaSeparated_identifiers (k : Nat) (c : String) (cs : List String) :
    lexemesOf k (commaSeparated ((c :: cs).map fun name => [.identifier name])) =
      .quoted c.toList :: cs.flatMap fun d => [.char ',', .char ' ', .quoted d.toList] := by
  induction cs generalizing c with
  | nil => rfl
  | cons d rest ih =>
      have hcomma : ", ".toList = [',', ' '] := rfl
      rw [commaSeparated_map_cons, List.singleton_append, lexemesOf, lexemesOf, ih, hcomma, List.flatMap_cons]
      rfl

theorem lexemesOf_backPieces (columns : List String) :
    lexemesOf 0 (backPieces columns) = backLexemes ++ columnLexemes columns := by
  have hlist : lexemesOf 0 (columnPieces columns) = columnLexemes columns := by
    cases columns with
    | nil => rfl
    | cons c cs =>
        have hopen : "(".toList = ['('] := rfl
        have hclose : ")".toList = [')'] := rfl
        rw [columnPieces, lexemesOf_append, lexemesOf, lexemesOf, lexemesOf, hopen, hclose,
          lexemesOf_commaSeparated_identifiers]
        rfl
  unfold backPieces backLexemes
  rw [lexemesOf, lexemesOf, hlist, List.append_assoc, List.singleton_append]

/-- What follows a statement in the wrapper continues none of its identifiers and placeholders. -/
theorem isBoundary_backPieces (columns : List String) : IsBoundary (charsOf 0 (backPieces columns)) := by
  have hword : isPlainWord ") AS " = true := rfl
  exact isBoundary_of_isPlainWord hword _

theorem isBoundary_render (q : Select) (rest : List Char) : IsBoundary ((q.render .empty).text.toList ++ rest) := by
  -- its first word decides; the pieces after it need not be opened
  have hword : isPlainWord "SELECT " = true := rfl
  rw [toList_text_render, Select.pieces, List.cons_append, List.cons_append, List.cons_append, List.cons_append,
    List.cons_append, charsOf, List.append_assoc]
  exact isBoundary_of_isPlainWord hword _

/-- The lexemes of a wrapped statement are those of the statement between those of the wrapper. -/
theorem lex_rowsAsObjects (q : Select) (columns : List String) :
    lex (rowsAsObjects (q.render .empty).text columns).toList =
      frontLexemes ++ lex (q.render .empty).text.toList ++ backLexemes ++ columnLexemes columns := by
  have hstatement : lex ((q.render .empty).text.toList ++ charsOf 0 (backPieces columns)) =
      lex (q.render .empty).text.toList ++ lex (charsOf 0 (backPieces columns)) := by
    -- the bracket after the statement continues none of its lexemes, so it reads as it does alone
    rw [toList_text_render, lex_charsOf (isSeparated_select q) 0 (isBoundary_backPieces columns),
      lex_charsOf_nil (isSeparated_select q)]
  have hfront : lexemesOf 0 frontPieces = frontLexemes := rfl
  rw [toList_rowsAsObjects, lex_charsOf isSeparated_frontPieces 0 (isBoundary_render q _), hstatement,
    lex_charsOf_nil (isSeparated_backPieces columns), lexemesOf_backPieces, hfront]
  simp only [List.append_assoc]

/-! ## Names and placeholders -/

/-- The identifiers in the list of columns are the columns, each once and in their order. -/
theorem filterMap_name?_columnLexemes (columns : List String) :
    (columnLexemes columns).filterMap Lexeme.name? = columns := by
  have hname (d : String) : Lexeme.name? (.quoted d.toList) = some d := by
    rw [Lexeme.name?, String.ofList_toList]
  have hrest (cs : List String) :
      (cs.flatMap fun d => [.char ',', .char ' ', .quoted d.toList]).filterMap Lexeme.name? = cs := by
    induction cs with
    | nil => rfl
    | cons d rest ih =>
        have hitem : [.char ',', .char ' ', .quoted d.toList].filterMap Lexeme.name? = [d] := by
          rw [List.filterMap_cons_none rfl, List.filterMap_cons_none rfl, List.filterMap_cons_some (hname d),
            List.filterMap_nil]
        rw [List.flatMap_cons, List.filterMap_append, hitem, ih, List.singleton_append]
  cases columns with
  | nil => rfl
  | cons c cs =>
      have hopen : Lexeme.name? (.char '(') = none := rfl
      have hclose : [Lexeme.char ')'].filterMap Lexeme.name? = [] := rfl
      rw [columnLexemes, List.filterMap_append, List.filterMap_cons_none hopen, List.filterMap_cons_some (hname c),
        hrest, hclose, List.append_nil]

theorem filterMap_placeholder?_columnLexemes (columns : List String) :
    (columnLexemes columns).filterMap Lexeme.placeholder? = [] := by
  cases columns with
  | nil => rfl
  | cons c cs =>
      have hrest :
          (cs.flatMap fun d => [.char ',', .char ' ', .quoted d.toList]).filterMap Lexeme.placeholder? = [] := by
        rw [List.filterMap_flatMap]
        exact List.flatMap_eq_nil_iff.2 fun d _ => rfl
      rw [columnLexemes, List.filterMap_append, List.filterMap_cons, List.filterMap_cons, hrest]
      rfl

/-- The wrapper has no placeholders. -/
theorem placeholders_rowsAsObjects (q : Select) (columns : List String) :
    placeholders (rowsAsObjects (q.render .empty).text columns) = placeholders (q.render .empty).text := by
  have hfront : frontLexemes.filterMap Lexeme.placeholder? = [] := rfl
  have hback : backLexemes.filterMap Lexeme.placeholder? = [] := rfl
  rw [placeholders, lex_rowsAsObjects, List.filterMap_append, List.filterMap_append, List.filterMap_append, hfront,
    hback, filterMap_placeholder?_columnLexemes, List.nil_append, List.append_nil, List.append_nil, placeholders]

/-- A statement is enclosed: around its own lexemes, which are balanced, stand those of the wrapper, and among the
brackets at the end the columns, one identifier for each. The placeholders are those of the statement. -/
theorem encloses_rowsAsObjects (q : Select) (names : List String) :
    let s := q.render .empty
    let columns := distinctColumns names
    let wrapped := rowsAsObjects s.text columns
    lex wrapped.toList = frontLexemes ++ lex s.text.toList ++ backLexemes ++ columnLexemes columns
      ∧ IsBalanced (lex s.text.toList)
      ∧ (columnLexemes columns).filterMap Lexeme.name? = columns ∧ columns.length = names.length ∧ columns.Nodup
      ∧ placeholders wrapped = placeholders s.text ∧ placeholders s.text = List.range' 1 s.parameters.length :=
  ⟨lex_rowsAsObjects q _, isBalanced_lex_render q, filterMap_name?_columnLexemes _, length_distinctColumns names,
    nodup_distinctColumns names, placeholders_rowsAsObjects q _, placeholders_render q⟩

example : rowsAsObjects "SELECT \"t\".\"id\" FROM \"books\" AS \"t\"" ["id", "say \"hi\""] =
    "SELECT row_to_json(\"rows\") FROM (SELECT \"t\".\"id\" FROM \"books\" AS \"t\")"
      ++ " AS \"rows\"(\"id\", \"say \"\"hi\"\"\")" := by
  decide +kernel

end QueryGate.Guard
