import Mathlib.Algebra.Order.Ring.Int
import QueryGate.Proofs.Statement.Parts
/-!
The brackets of a statement. Outside its identifiers a statement closes exactly the brackets that it opens, and none
before it is opened: so where a statement stands inside a bracket, that bracket is closed by the first one after it.
-/
set_option autoImplicit false

namespace QueryGate.Statement

/-! ## Depth -/

/-- What a lexeme adds to the number of open brackets. -/
def Lexeme.weight : Lexeme → Int
  | .char '(' => 1
  | .char ')' => -1
  | _ => 0

/-- The brackets that lexemes open, less those that they close. -/
def depth (ls : List Lexeme) : Int := (ls.map Lexeme.weight).sum

@[simp] theorem depth_nil : depth [] = 0 := rfl

@[simp] theorem depth_cons (l : Lexeme) (ls : List Lexeme) : depth (l :: ls) = l.weight + depth ls := by
  simp [depth]

@[simp] theorem depth_append (ls ms : List Lexeme) : depth (ls ++ ms) = depth ls + depth ms := by
  simp [depth]

/-- Lexemes close exactly the brackets that they open, and none before it is opened. -/
structure IsBalanced (ls : List Lexeme) : Prop where
  depth_eq : depth ls = 0
  depth_nonneg : ∀ ms, ms <+: ls → 0 ≤ depth ms

/-- Lexemes that are no brackets are balanced. -/
theorem isBalanced_of_weight {ls : List Lexeme} (h : ∀ l ∈ ls, l.weight = 0) : IsBalanced ls := by
  have hdepth : ∀ ms : List Lexeme, (∀ l ∈ ms, l.weight = 0) → depth ms = 0 := by
    intro ms hms
    induction ms with
    | nil => rfl
    | cons l ms ih =>
        rw [List.forall_mem_cons] at hms
        rw [depth_cons, hms.1, ih hms.2, add_zero]
  refine ⟨hdepth ls h, fun ms hms => ?_⟩
  rw [hdepth ms fun l hl => h l (hms.subset hl)]

theorem isBalanced_nil : IsBalanced [] := isBalanced_of_weight (by simp)

theorem IsBalanced.append {ls ms : List Lexeme} (hls : IsBalanced ls) (hms : IsBalanced ms) :
    IsBalanced (ls ++ ms) := by
  refine ⟨by rw [depth_append, hls.depth_eq, hms.depth_eq, add_zero], fun ks hks => ?_⟩
  -- what begins the two ends within the first or within the second
  rcases List.prefix_or_prefix_of_prefix hks (List.prefix_append ls ms) with hwithin | ⟨ns, rfl⟩
  · exact hls.depth_nonneg ks hwithin
  · rw [List.prefix_append_right_inj] at hks
    rw [depth_append, hls.depth_eq, zero_add]
    exact hms.depth_nonneg ns hks

/-- What stands in brackets is balanced together with them. -/
theorem IsBalanced.enclose {ls : List Lexeme} (h : IsBalanced ls) :
    IsBalanced (.char '(' :: ls ++ [.char ')']) := by
  have hopen : (Lexeme.char '(').weight = 1 := rfl
  have hclose : (Lexeme.char ')').weight = -1 := rfl
  refine ⟨?_, fun ms hms => ?_⟩
  · rw [depth_append, depth_cons, depth_cons, depth_nil, h.depth_eq, hopen, hclose]
    rfl
  · rcases List.prefix_concat_iff.1 hms with rfl | hwithin
    · simp [h.depth_eq, hopen, hclose]
    · cases ms with
      | nil => exact le_rfl
      | cons m ms =>
          -- one bracket is open all along
          obtain ⟨rfl, hrest⟩ := List.cons_prefix_cons.1 hwithin
          have hinside := h.depth_nonneg ms hrest
          rw [depth_cons, hopen]
          omega

/-! ## Pieces -/

/-- A word without brackets. -/
def hasNoBrackets (cs : List Char) : Bool := cs.all fun c => c ≠ '(' && c ≠ ')'

/-- The lexemes of pieces are balanced, wherever the pieces stand. -/
def AreBalanced (ps : List Piece) : Prop := ∀ k, IsBalanced (lexemesOf k ps)

theorem isBalanced_chars {cs : List Char} (h : hasNoBrackets cs = true) : IsBalanced (cs.map .char) := by
  apply isBalanced_of_weight
  intro l hl
  obtain ⟨c, hc, rfl⟩ := List.mem_map.1 hl
  have hplain := List.all_eq_true.1 h c hc
  simp only [Bool.and_eq_true, decide_eq_true_eq] at hplain
  unfold Lexeme.weight
  split
  · rename_i heq
    exact absurd (Lexeme.char.inj heq) hplain.1
  · rename_i heq
    exact absurd (Lexeme.char.inj heq) hplain.2
  · rfl

theorem hasNoBrackets_number (n : Nat) : hasNoBrackets (toString n).toList = true := by
  apply List.all_eq_true.2
  intro c hc
  have hdigit := isDigit_of_mem_toString hc
  simp only [Bool.and_eq_true, decide_eq_true_eq]
  constructor
  · rintro rfl
    exact absurd hdigit (by decide)
  · rintro rfl
    exact absurd hdigit (by decide)

theorem areBalanced_nil : AreBalanced [] := fun _ => isBalanced_nil

theorem AreBalanced.append {ps qs : List Piece} (hps : AreBalanced ps) (hqs : AreBalanced qs) :
    AreBalanced (ps ++ qs) := by
  intro k
  rw [lexemesOf_append]
  exact (hps k).append (hqs _)

theorem areBalanced_word {text : String} (h : hasNoBrackets text.toList = true) : AreBalanced [.fixed text] := by
  intro k
  rw [lexemesOf, lexemesOf, List.append_nil]
  exact isBalanced_chars h

theorem areBalanced_identifier (name : String) : AreBalanced [.identifier name] :=
  fun _ => isBalanced_of_weight (by simp [lexemesOf, Lexeme.weight])

theorem areBalanced_number (n : Nat) : AreBalanced [.number n] := by
  intro k
  rw [lexemesOf, lexemesOf, List.append_nil]
  exact isBalanced_chars (hasNoBrackets_number n)

theorem areBalanced_parameter (value : Json.Value) : AreBalanced [.parameter value] :=
  fun _ => isBalanced_of_weight (by simp [lexemesOf, Lexeme.weight])

theorem AreBalanced.word_cons {ps : List Piece} {text : String} (h : hasNoBrackets text.toList = true)
    (hps : AreBalanced ps) : AreBalanced (.fixed text :: ps) :=
  (areBalanced_word h).append hps

theorem AreBalanced.identifier_cons {ps : List Piece} (name : String) (hps : AreBalanced ps) :
    AreBalanced (.identifier name :: ps) :=
  (areBalanced_identifier name).append hps

/-- A word that ends in a bracket is balanced together with what it opens the bracket for and the closing one. -/
theorem AreBalanced.enclose {ps : List Piece} {text : String} (front : List Char)
    (htext : text.toList = front ++ ['(']) (hfront : hasNoBrackets front = true) (hps : AreBalanced ps) :
    AreBalanced (.fixed text :: ps ++ [.fixed ")"]) := by
  intro k
  have hlexemes : lexemesOf k (.fixed text :: ps ++ [.fixed ")"]) =
      front.map .char ++ (.char '(' :: lexemesOf k ps ++ [.char ')']) := by
    have hclose : ")".toList = [')'] := rfl
    rw [List.cons_append, lexemesOf, htext, lexemesOf_append, lexemesOf, lexemesOf, hclose]
    simp
  rw [hlexemes]
  exact (isBalanced_chars hfront).append (hps k).enclose

theorem areBalanced_commaSeparated {rows : List (List Piece)} (h : ∀ ps ∈ rows, AreBalanced ps) :
    AreBalanced (commaSeparated rows) := by
  induction rows with
  | nil => exact areBalanced_nil
  | cons ps rest ih =>
      rw [List.forall_mem_cons] at h
      cases rest with
      | nil => exact h.1
      | cons qs rest => exact h.1.append (.word_cons rfl (ih h.2))

/-! ## Statements -/

/-- The brackets of an expression are balanced. -/
theorem areBalanced_expression (e : Expression) : AreBalanced e.pieces := by
  have hoperator (o : Operator) : hasNoBrackets o.word.toList = true := by
    cases o <;> rfl
  have htype (type : CastType) : hasNoBrackets type.word.toList = true := by
    cases type with
    | base type => cases type <;> rfl
    | array type => cases type <;> rfl
  have group {ps : List Piece} (hps : AreBalanced ps) : AreBalanced (.fixed "(" :: ps ++ [.fixed ")"]) :=
    .enclose [] rfl rfl hps
  -- brackets are written in three ways only: around a group, after `ANY` and after `CAST`
  induction e with
  | column table name =>
      unfold Expression.pieces
      exact .identifier_cons table (.word_cons rfl (areBalanced_identifier name))
  | boolean b =>
      unfold Expression.pieces
      cases b <;> exact areBalanced_word rfl
  | parameter value =>
      unfold Expression.pieces
      exact areBalanced_parameter value
  | and left right hleft hright =>
      unfold Expression.pieces
      exact group (hleft.append (.word_cons rfl hright))
  | binary left operator right hleft hright =>
      unfold Expression.pieces
      exact group (hleft.append (.word_cons (hoperator operator) hright))
  | between subject low high hsubject hlow hhigh =>
      unfold Expression.pieces
      exact group ((hsubject.append (.word_cons rfl hlow)).append (.word_cons rfl hhigh))
  | any arguments harguments =>
      rw [Expression.pieces, piecesOfEach_eq_map]
      exact .enclose "ANY".toList rfl rfl (areBalanced_commaSeparated (List.forall_mem_map.2 harguments))
  | cast subject type hsubject =>
      unfold Expression.pieces
      have htarget : AreBalanced [.fixed " AS ", .fixed type.word] :=
        .word_cons rfl (areBalanced_word (htype type))
      have hcast : AreBalanced
          (.fixed "CAST(" :: (subject.pieces ++ [.fixed " AS ", .fixed type.word]) ++ [.fixed ")"]) :=
        .enclose "CAST".toList rfl rfl (hsubject.append htarget)
      simpa using hcast

theorem areBalanced_joins (joins : List Join) : AreBalanced (joins.flatMap Join.pieces) := by
  have hkind (kind : Contract.JoinKind) : hasNoBrackets (joinWord kind).toList = true := by
    cases kind <;> rfl
  have hjoin (j : Join) : AreBalanced j.pieces :=
    .word_cons (hkind j.kind) (.identifier_cons j.table (.word_cons rfl (.identifier_cons j.tableAlias
      (.word_cons rfl (areBalanced_expression j.condition)))))
  induction joins with
  | nil => exact areBalanced_nil
  | cons j rest ih =>
      rw [List.flatMap_cons]
      exact (hjoin j).append ih

theorem areBalanced_condition (e : Expression) : AreBalanced (conditionPieces e) := by
  unfold conditionPieces
  split
  · exact areBalanced_nil
  · exact .word_cons rfl (areBalanced_expression e)

theorem areBalanced_order (keys : List OrderKey) : AreBalanced (orderPieces keys) := by
  have hdirection (direction : Direction) : hasNoBrackets direction.word.toList = true := by
    cases direction <;> rfl
  cases keys with
  | nil => exact areBalanced_nil
  | cons k rest =>
      refine .word_cons rfl (areBalanced_commaSeparated (List.forall_mem_map.2 fun k _ => ?_))
      exact (areBalanced_expression k.subject).append (areBalanced_word (hdirection k.direction))

theorem areBalanced_limit (limit : Option Nat) : AreBalanced (limitPieces limit) := by
  cases limit with
  | none => exact areBalanced_nil
  | some n => exact .word_cons rfl (areBalanced_number n)

theorem areBalanced_select (q : Select) : AreBalanced q.pieces := by
  have hcolumns : AreBalanced (.fixed "SELECT " :: commaSeparated (q.columns.map Expression.pieces)) :=
    .word_cons rfl (areBalanced_commaSeparated (List.forall_mem_map.2 fun e _ => areBalanced_expression e))
  have htable :
      AreBalanced [.fixed " ", .fixed "FROM ", .identifier q.table, .fixed " AS ", .identifier q.tableAlias] :=
    .word_cons rfl (.word_cons rfl (.identifier_cons q.table (.word_cons rfl (areBalanced_identifier q.tableAlias))))
  unfold Select.pieces
  exact ((((hcolumns.append htable).append (areBalanced_joins q.joins)).append
    (areBalanced_condition q.condition)).append (areBalanced_order q.order)).append (areBalanced_limit q.limit)

/-- The brackets of a statement are balanced. -/
theorem isBalanced_lex_render (q : Select) : IsBalanced (lex (q.render .empty).text.toList) := by
  rw [lex_render]
  exact areBalanced_select q 0

end QueryGate.Statement
