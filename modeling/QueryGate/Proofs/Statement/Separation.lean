import Mathlib.Data.List.Chain
import QueryGate.Proofs.Statement.Lexeme
/-!
The pieces of a statement are read one by one. In a statement an identifier is never followed by a quote and a
placeholder never by a digit, since of two pieces side by side one is a fixed word; so the lexemes of the text are
those of the pieces.
-/
set_option autoImplicit false

namespace QueryGate.Statement

/-! ## Separated pieces -/

/-- A word that is no part of an identifier or of a placeholder, not even where it follows one. -/
def isPlainWord (text : String) : Bool :=
  match text.toList with
  | [] => false
  | c :: cs => !c.isDigit && (c :: cs).all fun d => d ≠ '"' && d ≠ '$'

/-- Whether a piece is a fixed word. -/
def Piece.IsFixed : Piece → Prop
  | .fixed _ => True
  | _ => False

/-- Pieces are separated: fixed words are plain, and of two pieces side by side one is a fixed word. -/
structure IsSeparated (ps : List Piece) : Prop where
  words_plain : ∀ text, .fixed text ∈ ps → isPlainWord text = true
  chain : ps.IsChain fun p q => p.IsFixed ∨ q.IsFixed

/-- Characters that neither continue an identifier nor a placeholder. -/
def IsBoundary (cs : List Char) : Prop := ∀ c, cs.head? = some c → c ≠ '"' ∧ c.isDigit = false

/-- The lexemes of pieces after so many parameters. -/
def lexemesOf : Nat → List Piece → List Lexeme
  | _, [] => []
  | k, .fixed text :: ps => text.toList.map .char ++ lexemesOf k ps
  | k, .identifier name :: ps => .quoted name.toList :: lexemesOf k ps
  | k, .number n :: ps => (toString n).toList.map .char ++ lexemesOf k ps
  | k, .parameter _ :: ps => .placeholder (k + 1) :: lexemesOf (k + 1) ps

/-- What is sought among lexemes that are no characters is not found among characters. -/
theorem filterMap_map_char {α : Type} {f : Lexeme → Option α} (hf : ∀ c, f (.char c) = none) (cs : List Char) :
    (cs.map Lexeme.char).filterMap f = [] := by
  rw [List.filterMap_map, List.filterMap_eq_nil_iff]
  exact fun c _ => hf c

/-! ## The lexemes of pieces -/

/-- A plain word has a first character, which is no digit, and no quotes or dollar signs. -/
theorem exists_of_isPlainWord {text : String} (h : isPlainWord text = true) :
    ∃ c cs, text.toList = c :: cs ∧ c.isDigit = false ∧ ∀ d ∈ text.toList, d ≠ '"' ∧ d ≠ '$' := by
  unfold isPlainWord at h
  cases htext : text.toList with
  | nil => simp [htext] at h
  | cons c cs =>
      simp only [htext, Bool.and_eq_true, Bool.not_eq_true', List.all_eq_true, decide_eq_true_eq] at h
      exact ⟨c, cs, rfl, h⟩

/-- A plain word neither continues an identifier nor a placeholder. -/
theorem isBoundary_of_isPlainWord {text : String} (h : isPlainWord text = true) (rest : List Char) :
    IsBoundary (text.toList ++ rest) := by
  obtain ⟨c, cs, htext, hdigit, hplain⟩ := exists_of_isPlainWord h
  rw [htext] at hplain ⊢
  intro d hd
  rw [List.cons_append, List.head?_cons, Option.some.injEq] at hd
  rw [← hd]
  exact ⟨(hplain c List.mem_cons_self).1, hdigit⟩

/-- What follows a piece that is no fixed word continues neither an identifier nor a placeholder. -/
theorem isBoundary_charsOf {p : Piece} {ps : List Piece} (hp : ¬p.IsFixed) (h : IsSeparated (p :: ps)) (k : Nat)
    {rest : List Char} (hrest : IsBoundary rest) : IsBoundary (charsOf k ps ++ rest) := by
  cases ps with
  | nil => exact hrest
  | cons q qs =>
      have hfixed : q.IsFixed := ((List.isChain_cons_cons.1 h.chain).1).resolve_left hp
      cases q with
      | fixed text =>
          rw [charsOf, List.append_assoc]
          exact isBoundary_of_isPlainWord (h.words_plain text (by simp)) _
      | _ => exact absurd hfixed (by simp [Piece.IsFixed])

theorem IsSeparated.tail {p : Piece} {ps : List Piece} (h : IsSeparated (p :: ps)) : IsSeparated ps :=
  ⟨fun text htext => h.words_plain text (List.mem_cons_of_mem _ htext), h.chain.tail⟩

/-- The lexemes of a statement are those of its pieces, one after the other. -/
theorem lex_charsOf {ps : List Piece} (h : IsSeparated ps) (k : Nat) {rest : List Char} (hrest : IsBoundary rest) :
    lex (charsOf k ps ++ rest) = lexemesOf k ps ++ lex rest := by
  -- each piece is read on its own, as what follows it begins with a fixed word or with the rest
  induction ps generalizing k with
  | nil => rfl
  | cons p ps ih =>
      have hboundary : ¬p.IsFixed → ∀ k, IsBoundary (charsOf k ps ++ rest) :=
        fun hp k => isBoundary_charsOf hp h k hrest
      have hps := fun k => ih h.tail k
      rw [charsOf, List.append_assoc]
      cases p with
      | fixed text =>
          obtain ⟨-, -, -, -, hplain⟩ := exists_of_isPlainWord (h.words_plain text List.mem_cons_self)
          rw [Piece.chars, lex_plain hplain, hps, lexemesOf, List.append_assoc]
          rfl
      | identifier name =>
          rw [Piece.chars, lex_quotedChars name fun hc => (hboundary (by simp [Piece.IsFixed]) _ _ hc).1 rfl, hps,
            lexemesOf]
          rfl
      | number n =>
          rw [Piece.chars, lex_plain fun c hc => isPlain_of_mem_toString hc, hps, lexemesOf, List.append_assoc]
          rfl
      | parameter value =>
          rw [Piece.chars, lex_placeholder (k + 1) fun c hc => (hboundary (by simp [Piece.IsFixed]) _ c hc).2, hps,
            lexemesOf]
          rfl

/-- Pieces with nothing after them have their own lexemes. -/
theorem lex_charsOf_nil {ps : List Piece} (h : IsSeparated ps) (k : Nat) : lex (charsOf k ps) = lexemesOf k ps := by
  have hend : IsBoundary [] := by simp [IsBoundary]
  have hlex := lex_charsOf h k hend
  rw [List.append_nil] at hlex
  exact hlex.trans (List.append_nil _)

/-! ## The pieces of a statement are separated -/

theorem isSeparated_nil : IsSeparated [] := ⟨by simp, List.isChain_nil⟩

theorem isSeparated_singleton {p : Piece} (hp : ¬p.IsFixed) : IsSeparated [p] := by
  refine ⟨?_, List.isChain_singleton p⟩
  intro text htext
  rw [← List.mem_singleton.1 htext] at hp
  exact absurd trivial hp

theorem isSeparated_cons {ps : List Piece} {text : String} (htext : isPlainWord text = true) (hps : IsSeparated ps) :
    IsSeparated (.fixed text :: ps) := by
  refine ⟨?_, List.isChain_cons.2 ⟨fun q _ => .inl trivial, hps.chain⟩⟩
  intro word hword
  rcases List.mem_cons.1 hword with heq | hword
  · rw [Piece.fixed.inj heq]
    exact htext
  · exact hps.words_plain word hword

/-- Pieces that begin with a fixed word, if there are any, can follow others. -/
theorem isSeparated_append {ps qs : List Piece} (hps : IsSeparated ps) (hqs : IsSeparated qs)
    (hfixed : ∀ q, qs.head? = some q → q.IsFixed) : IsSeparated (ps ++ qs) := by
  refine ⟨?_, List.isChain_append.2 ⟨hps.chain, hqs.chain, fun p _ q hq => .inr (hfixed q hq)⟩⟩
  intro word hword
  rcases List.mem_append.1 hword with hword | hword
  · exact hps.words_plain word hword
  · exact hqs.words_plain word hword

/-- A fixed word separates what stands before it from what follows. -/
theorem isSeparated_append_cons {ps qs : List Piece} {text : String} (hps : IsSeparated ps)
    (htext : isPlainWord text = true) (hqs : IsSeparated qs) : IsSeparated (ps ++ .fixed text :: qs) := by
  apply isSeparated_append hps (isSeparated_cons htext hqs)
  intro q hq
  rw [List.head?_cons, Option.some.injEq] at hq
  exact hq ▸ trivial

theorem isSeparated_identifier (name : String) : IsSeparated [.identifier name] :=
  isSeparated_singleton (by simp [Piece.IsFixed])

theorem isSeparated_identifier_cons {ps : List Piece} (name : String) {text : String} (htext : isPlainWord text = true)
    (hps : IsSeparated ps) : IsSeparated (.identifier name :: .fixed text :: ps) :=
  isSeparated_append_cons (isSeparated_identifier name) htext hps

/-- Separated pieces with commas between them are separated. -/
theorem isSeparated_commaSeparated {rows : List (List Piece)} (h : ∀ ps ∈ rows, IsSeparated ps) :
    IsSeparated (commaSeparated rows) := by
  induction rows with
  | nil => exact isSeparated_nil
  | cons ps rest ih =>
      rw [List.forall_mem_cons] at h
      cases rest with
      | nil => exact h.1
      | cons qs rest => exact isSeparated_append_cons h.1 rfl (ih h.2)

theorem isPlainWord_operator (operator : Operator) : isPlainWord operator.word = true := by
  cases operator <;> rfl

theorem isPlainWord_type (type : CastType) : isPlainWord type.word = true := by
  cases type with
  | base type => cases type <;> rfl
  | array type => cases type <;> rfl

/-- The pieces of an expression are separated. -/
theorem isSeparated_expression (e : Expression) : IsSeparated e.pieces := by
  have closed {ps : List Piece} (hps : IsSeparated ps) : IsSeparated (ps ++ [.fixed ")"]) :=
    isSeparated_append_cons hps rfl isSeparated_nil
  induction e with
  | column table name =>
      unfold Expression.pieces
      exact isSeparated_identifier_cons table rfl (isSeparated_identifier name)
  | boolean b =>
      unfold Expression.pieces
      cases b <;> exact isSeparated_cons rfl isSeparated_nil
  | parameter value =>
      unfold Expression.pieces
      exact isSeparated_singleton (by simp [Piece.IsFixed])
  | and left right hleft hright =>
      unfold Expression.pieces
      exact closed (isSeparated_append_cons (isSeparated_cons rfl hleft) rfl hright)
  | binary left operator right hleft hright =>
      unfold Expression.pieces
      exact closed (isSeparated_append_cons (isSeparated_cons rfl hleft) (isPlainWord_operator operator) hright)
  | between subject low high hsubject hlow hhigh =>
      unfold Expression.pieces
      refine closed (isSeparated_append_cons ?_ rfl hhigh)
      exact isSeparated_append_cons (isSeparated_cons rfl hsubject) rfl hlow
  | any arguments harguments =>
      rw [Expression.pieces, piecesOfEach_eq_map]
      refine closed (isSeparated_cons rfl (isSeparated_commaSeparated ?_))
      exact List.forall_mem_map.2 harguments
  | cast subject type hsubject =>
      unfold Expression.pieces
      refine isSeparated_append_cons (isSeparated_cons rfl hsubject) rfl ?_
      exact isSeparated_cons (isPlainWord_type type) (isSeparated_cons rfl isSeparated_nil)

/-- The pieces of a joined table are separated. -/
theorem isSeparated_join (j : Join) : IsSeparated j.pieces := by
  have hword (kind : Contract.JoinKind) : isPlainWord (joinWord kind) = true := by
    cases kind <;> rfl
  exact isSeparated_cons (hword j.kind) (isSeparated_identifier_cons j.table rfl
    (isSeparated_identifier_cons j.tableAlias rfl (isSeparated_expression j.condition)))

/-- The pieces of joined tables are separated. -/
theorem isSeparated_joins (joins : List Join) : IsSeparated (joins.flatMap Join.pieces) := by
  induction joins with
  | nil => exact isSeparated_nil
  | cons j rest ih =>
      rw [List.flatMap_cons]
      apply isSeparated_append (isSeparated_join j) ih
      cases rest <;> simp [Join.pieces, Piece.IsFixed]

/-- The pieces of expressions with commas between them are separated. -/
theorem isSeparated_columns (es : List Expression) : IsSeparated (commaSeparated (es.map Expression.pieces)) :=
  isSeparated_commaSeparated (List.forall_mem_map.2 fun e _ => isSeparated_expression e)

theorem isSeparated_condition (e : Expression) : IsSeparated (conditionPieces e) := by
  unfold conditionPieces
  split
  · exact isSeparated_nil
  · exact isSeparated_cons rfl (isSeparated_expression e)

theorem isSeparated_order (keys : List OrderKey) : IsSeparated (orderPieces keys) := by
  have hword (direction : Direction) : isPlainWord direction.word = true := by
    cases direction <;> rfl
  cases keys with
  | nil => exact isSeparated_nil
  | cons k rest =>
      refine isSeparated_cons rfl (isSeparated_commaSeparated (List.forall_mem_map.2 ?_))
      intro k _
      exact isSeparated_append_cons (isSeparated_expression k.subject) (hword k.direction) isSeparated_nil

theorem isSeparated_limit (limit : Option Nat) : IsSeparated (limitPieces limit) := by
  cases limit with
  | none => exact isSeparated_nil
  | some n => exact isSeparated_cons rfl (isSeparated_singleton (by simp [Piece.IsFixed]))

/-- The pieces of a statement are separated. -/
theorem isSeparated_select (q : Select) : IsSeparated q.pieces := by
  have hcolumns : IsSeparated (.fixed "SELECT " :: commaSeparated (q.columns.map Expression.pieces)) :=
    isSeparated_cons rfl (isSeparated_columns q.columns)
  have htable :
      IsSeparated [.fixed " ", .fixed "FROM ", .identifier q.table, .fixed " AS ", .identifier q.tableAlias] :=
    isSeparated_cons rfl (isSeparated_cons rfl
      (isSeparated_identifier_cons q.table rfl (isSeparated_identifier q.tableAlias)))
  unfold Select.pieces
  -- every clause begins with a fixed word, so each can follow the clauses before it
  refine isSeparated_append (isSeparated_append (isSeparated_append (isSeparated_append (isSeparated_append hcolumns
    htable ?_) (isSeparated_joins q.joins) ?_) (isSeparated_condition q.condition) ?_) (isSeparated_order q.order) ?_)
    (isSeparated_limit q.limit) ?_
  · simp [Piece.IsFixed]
  · cases q.joins <;> simp [Join.pieces, Piece.IsFixed]
  · unfold conditionPieces
    split <;> simp [Piece.IsFixed]
  · cases q.order <;> simp [orderPieces, Piece.IsFixed]
  · cases q.limit <;> simp [limitPieces, Piece.IsFixed]

/-- The text of a statement is that of its pieces. -/
theorem toList_text_render (q : Select) : (q.render .empty).text.toList = charsOf 0 q.pieces := by
  rw [q.render_eq_appendAll, toList_text_appendAll, empty, String.toList_empty, List.nil_append, List.length_nil]

/-- The lexemes of a statement are those of its pieces. -/
theorem lex_render (q : Select) : lex (q.render .empty).text.toList = lexemesOf 0 q.pieces := by
  rw [toList_text_render, lex_charsOf_nil (isSeparated_select q)]

end QueryGate.Statement
