import QueryGate.Proofs.Statement.Parser
import QueryGate.Proofs.Statement.Separation
/-!
Reading along the pieces of a syntax tree. The tokens of a statement are those of its pieces, without regard to where
they stand; a reader of expressions or clauses takes exactly the tokens of the tree that was rendered and leaves what
follows.
-/
set_option autoImplicit false

namespace QueryGate.Statement

/-! ## The tokens of pieces -/

/-- The tokens of a piece. -/
def Piece.tokens : Piece → List Token
  | .fixed text => text.toList.map .char
  | .identifier name => [.quoted name]
  | .number n => (toString n).toList.map .char
  | .parameter value => [.value value]

/-- The tokens of pieces. -/
def tokensOf (ps : List Piece) : List Token := ps.flatMap Piece.tokens

@[simp] theorem tokensOf_nil : tokensOf [] = [] := rfl

@[simp] theorem tokensOf_cons (p : Piece) (ps : List Piece) : tokensOf (p :: ps) = p.tokens ++ tokensOf ps := rfl

@[simp] theorem tokensOf_append (ps qs : List Piece) : tokensOf (ps ++ qs) = tokensOf ps ++ tokensOf qs :=
  List.flatMap_append

theorem mapM_tokenOf_chars (parameters : List Json.Value) (cs : List Char) :
    (cs.map .char).mapM (tokenOf parameters) = some (cs.map .char) := by
  induction cs with
  | nil => rfl
  | cons c cs ih =>
      rw [List.map_cons, List.mapM_cons, ih]
      rfl

/-- The placeholders of pieces are looked up among the parameters of these pieces. -/
theorem mapM_tokenOf_lexemesOf (before : List Json.Value) (ps : List Piece) :
    (lexemesOf before.length ps).mapM (tokenOf (before ++ ps.flatMap Piece.parameters)) = some (tokensOf ps) := by
  induction ps generalizing before with
  | nil => rfl
  | cons p ps ih =>
      cases p with
      | fixed text =>
          rw [lexemesOf, List.mapM_append, mapM_tokenOf_chars, List.flatMap_cons, Piece.parameters, List.nil_append, ih]
          rfl
      | identifier name =>
          have hname : tokenOf (before ++ ps.flatMap Piece.parameters) (.quoted name.toList) = some (.quoted name) := by
            rw [tokenOf, String.ofList_toList]
          rw [lexemesOf, List.mapM_cons, List.flatMap_cons, Piece.parameters, List.nil_append, hname, ih]
          rfl
      | number n =>
          rw [lexemesOf, List.mapM_append, mapM_tokenOf_chars, List.flatMap_cons, Piece.parameters, List.nil_append, ih]
          rfl
      | parameter value =>
          -- so many parameters stand before it, so its own is the next one
          have hvalue : tokenOf (before ++ value :: ps.flatMap Piece.parameters) (.placeholder (before.length + 1)) =
              some (.value value) := by
            rw [tokenOf, List.getElem?_append_right (Nat.le_refl _), Nat.sub_self]
            rfl
          have hrest := ih (before ++ [value])
          rw [List.length_append, List.length_singleton, List.append_assoc, List.singleton_append] at hrest
          rw [lexemesOf, List.mapM_cons, List.flatMap_cons, Piece.parameters, List.singleton_append, hvalue, hrest]
          rfl

/-- The tokens of a statement are those of its pieces. -/
theorem tokens_render (q : Select) : tokens (q.render .empty) = some (tokensOf q.pieces) := by
  have hparameters : (q.render .empty).parameters = q.pieces.flatMap Piece.parameters := by
    rw [q.render_eq_appendAll, parameters_appendAll, empty, List.nil_append]
  rw [tokens, lex_render, hparameters]
  exact mapM_tokenOf_lexemesOf [] q.pieces

/-! ## Reading words -/

theorem skipChars_map (cs : List Char) (ts : List Token) : skipChars cs (cs.map .char ++ ts) = some ts := by
  induction cs with
  | nil => rfl
  | cons c cs ih => rw [List.map_cons, List.cons_append, skipChars, if_pos rfl, ih]

/-- A word is skipped where it stands. -/
theorem skip_fixed (word : String) (ts : List Token) : skip word ((Piece.fixed word).tokens ++ ts) = some ts :=
  skipChars_map word.toList ts

theorem readOneOf_infix_operator (o : Operator) (ts : List Token) :
    readOneOf infixes ((Piece.fixed o.word).tokens ++ ts) = some (.operator o, ts) := by
  cases o <;> rfl

theorem readOneOf_castTypes (type : CastType) (ts : List Token) :
    readOneOf castTypes ((Piece.fixed type.word).tokens ++ ((Piece.fixed ")").tokens ++ ts)) = some (type, ts) := by
  cases type with
  | base type => cases type <;> rfl
  | array type => cases type <;> rfl

theorem readOneOf_directionWords (direction : Direction) (ts : List Token) :
    readOneOf directionWords ((Piece.fixed direction.word).tokens ++ ts) = some (direction, ts) := by
  cases direction <;> rfl

theorem readOneOf_joinWords (kind : Contract.JoinKind) (ts : List Token) :
    readOneOf joinWords ((Piece.fixed (joinWord kind)).tokens ++ ts) = some (kind, ts) := by
  cases kind <;> rfl

/-! ## Reading items -/

/-- Items with commas between them are read one after the other, where no comma follows them. -/
theorem readMore_commaSeparated {α : Type} {item : Reader α} {f : α → List Piece} {as : List α} (hne : as ≠ [])
    (hitem : ∀ a ∈ as, ∀ ts, item (tokensOf (f a) ++ ts) = some (a, ts)) {fuel : Nat} (hfuel : as.length ≤ fuel)
    {ts : List Token} (hts : skip ", " ts = none) :
    readMore item fuel (tokensOf (commaSeparated (as.map f)) ++ ts) = some (as, ts) := by
  -- a comma tells that another item follows; after the last item there is none
  induction as generalizing fuel with
  | nil => exact absurd rfl hne
  | cons a rest ih =>
      rw [List.forall_mem_cons] at hitem
      obtain ⟨fuel, rfl⟩ : ∃ n, fuel = n + 1 := ⟨fuel - 1, by rw [List.length_cons] at hfuel; omega⟩
      rw [List.length_cons, Nat.add_le_add_iff_right] at hfuel
      cases rest with
      | nil =>
          rw [List.map_singleton, commaSeparated, readMore, hitem.1]
          simp only [Option.bind_eq_bind, Option.bind_some, hts]
      | cons b rest =>
          rw [commaSeparated_map_cons, tokensOf_append, tokensOf_cons, List.append_assoc, List.append_assoc, readMore,
            hitem.1]
          simp only [Option.bind_eq_bind, Option.bind_some, skip_fixed,
            ih (List.cons_ne_nil b rest) hitem.2 hfuel]

/-- The tokens of an item are among those of all items. -/
theorem length_tokensOf_le {α : Type} {f : α → List Piece} {as : List α} {a : α} (ha : a ∈ as) :
    (tokensOf (f a)).length ≤ (tokensOf (commaSeparated (as.map f))).length := by
  induction as with
  | nil => exact absurd ha List.not_mem_nil
  | cons b rest ih =>
      cases rest with
      | nil => rw [List.mem_singleton.1 ha, List.map_singleton, commaSeparated]
      | cons c rest =>
          rw [commaSeparated_map_cons, tokensOf_append, List.length_append, tokensOf_cons, List.length_append]
          rcases List.mem_cons.1 ha with rfl | ha
          · omega
          · have := ih ha
            omega

/-- There are no more items than tokens of them. -/
theorem length_le_tokensOf {α : Type} {f : α → List Piece} {as : List α} (hf : ∀ a ∈ as, 0 < (tokensOf (f a)).length) :
    as.length ≤ (tokensOf (commaSeparated (as.map f))).length := by
  induction as with
  | nil => exact Nat.zero_le _
  | cons b rest ih =>
      rw [List.forall_mem_cons] at hf
      cases rest with
      | nil => exact hf.1
      | cons c rest =>
          have hrest := ih hf.2
          rw [commaSeparated_map_cons, tokensOf_append, List.length_append, tokensOf_cons, List.length_append,
            List.length_cons]
          omega

/-! ## Reading expressions -/

/-- An expression has tokens. -/
theorem length_tokensOf_pos (e : Expression) : 0 < (tokensOf e.pieces).length := by
  cases e with
  | boolean b => cases b <;> exact Nat.succ_pos _
  | _ =>
      unfold Expression.pieces
      exact Nat.succ_pos _

theorem exists_eq_add_one_of_length_le {e : Expression} {fuel : Nat} (h : (tokensOf e.pieces).length ≤ fuel) :
    ∃ n, fuel = n + 1 := by
  have hpos := length_tokensOf_pos e
  exact ⟨fuel - 1, by omega⟩

/-- Where an expression stands, none of the words stands that can follow a list of expressions. -/
theorem skip_expression (e : Expression) (ts : List Token) :
    skip ")" (tokensOf e.pieces ++ ts) = none ∧ skip " " (tokensOf e.pieces ++ ts) = none := by
  cases e with
  | boolean b => cases b <;> exact ⟨rfl, rfl⟩
  | _ =>
      unfold Expression.pieces
      exact ⟨rfl, rfl⟩

/-- A reader of expressions takes the tokens of an expression and leaves what follows. -/
def ReadsBack (expression : Reader Expression) (e : Expression) : Prop :=
  ∀ ts, expression (tokensOf e.pieces ++ ts) = some (e, ts)

section Parts

variable {expression : Reader Expression} {left low high right subject : Expression}

theorem readGroup_and (hleft : ReadsBack expression left) (hright : ReadsBack expression right) (ts : List Token) :
    readGroup expression (tokensOf (left.pieces ++ .fixed " AND " :: right.pieces ++ [.fixed ")"]) ++ ts) =
      some (.and left right, ts) := by
  have hword (ts : List Token) : readOneOf infixes ((Piece.fixed " AND ").tokens ++ ts) = some (.and, ts) := rfl
  simp only [readGroup, tokensOf_append, tokensOf_cons, tokensOf_nil, List.append_assoc, List.nil_append, hleft _,
    hright _, hword, skip_fixed, Option.bind_eq_bind, Option.bind_some]

theorem readGroup_binary (hleft : ReadsBack expression left) (operator : Operator) (hright : ReadsBack expression right)
    (ts : List Token) :
    readGroup expression (tokensOf (left.pieces ++ .fixed operator.word :: right.pieces ++ [.fixed ")"]) ++ ts) =
      some (.binary left operator right, ts) := by
  simp only [readGroup, tokensOf_append, tokensOf_cons, tokensOf_nil, List.append_assoc, List.nil_append, hleft _,
    hright _, readOneOf_infix_operator, skip_fixed, Option.bind_eq_bind, Option.bind_some]

theorem readGroup_between (hsubject : ReadsBack expression subject) (hlow : ReadsBack expression low)
    (hhigh : ReadsBack expression high) (ts : List Token) :
    readGroup expression (tokensOf (subject.pieces ++ .fixed " BETWEEN " :: low.pieces ++ .fixed " AND " :: high.pieces
      ++ [.fixed ")"]) ++ ts) = some (.between subject low high, ts) := by
  have hword (ts : List Token) : readOneOf infixes ((Piece.fixed " BETWEEN ").tokens ++ ts) = some (.between, ts) := rfl
  simp only [readGroup, tokensOf_append, tokensOf_cons, tokensOf_nil, List.append_assoc, List.nil_append, hsubject _,
    hlow _, hhigh _, hword, skip_fixed, Option.bind_eq_bind, Option.bind_some]

/-- A list of expressions is read up to the word that stands after it. -/
theorem readItems_expressions {es : List Expression} (hes : ∀ e ∈ es, ReadsBack expression e) {stop : String}
    (hstop : ∀ e : Expression, ∀ ts, skip stop (tokensOf e.pieces ++ ts) = none) {fuel : Nat} (hfuel : es.length ≤ fuel)
    {ts : List Token} (hts : (skip stop ts).isSome = true) (hcomma : skip ", " ts = none) :
    readItems expression stop fuel (tokensOf (commaSeparated (es.map Expression.pieces)) ++ ts) = some (es, ts) := by
  unfold readItems
  cases es with
  | nil => exact if_pos hts
  | cons e rest =>
      -- the word that stands after the list does not stand where its first expression does
      have hnone : skip stop (tokensOf (commaSeparated ((e :: rest).map Expression.pieces)) ++ ts) = none := by
        cases rest with
        | nil => exact hstop e ts
        | cons f rest =>
            rw [commaSeparated_map_cons, tokensOf_append, List.append_assoc]
            exact hstop e _
      rw [hnone, if_neg (by simp)]
      exact readMore_commaSeparated (List.cons_ne_nil e rest) hes hfuel hcomma

theorem readAny_arguments {arguments : List Expression} (harguments : ∀ e ∈ arguments, ReadsBack expression e)
    {fuel : Nat} (hfuel : arguments.length ≤ fuel) (ts : List Token) :
    readAny expression fuel (tokensOf (commaSeparated (arguments.map Expression.pieces) ++ [.fixed ")"]) ++ ts) =
      some (.any arguments, ts) := by
  have hitems : readItems expression ")" fuel (tokensOf (commaSeparated (arguments.map Expression.pieces))
      ++ ((Piece.fixed ")").tokens ++ ts)) = some (arguments, (Piece.fixed ")").tokens ++ ts) :=
    readItems_expressions harguments (fun e ts => (skip_expression e ts).1) hfuel rfl rfl
  simp only [readAny, tokensOf_append, tokensOf_cons, tokensOf_nil, List.append_assoc, List.nil_append, hitems,
    skip_fixed, Option.bind_eq_bind, Option.bind_some]

theorem readCast_subject (hsubject : ReadsBack expression subject) (type : CastType) (ts : List Token) :
    readCast expression (tokensOf (subject.pieces ++ [.fixed " AS ", .fixed type.word, .fixed ")"]) ++ ts) =
      some (.cast subject type, ts) := by
  simp only [readCast, tokensOf_append, tokensOf_cons, tokensOf_nil, List.append_assoc, List.nil_append, hsubject _,
    readOneOf_castTypes, skip_fixed, Option.bind_eq_bind, Option.bind_some]

end Parts

theorem readExpression_group (fuel : Nat) (ts : List Token) :
    readExpression (fuel + 1) ((Piece.fixed "(").tokens ++ ts) = readGroup (readExpression fuel) ts := rfl

theorem readExpression_any (fuel : Nat) (ts : List Token) :
    readExpression (fuel + 1) ((Piece.fixed "ANY(").tokens ++ ts) = readAny (readExpression fuel) fuel ts := rfl

theorem readExpression_cast (fuel : Nat) (ts : List Token) :
    readExpression (fuel + 1) ((Piece.fixed "CAST(").tokens ++ ts) = readCast (readExpression fuel) ts := rfl

/-- With as much fuel as it has tokens, every expression is read back. -/
theorem readsBack_readExpression (e : Expression) {fuel : Nat} (hfuel : (tokensOf e.pieces).length ≤ fuel) :
    ReadsBack (readExpression fuel) e := by
  have hgroup : (Piece.fixed "(").tokens.length = 1 := rfl
  have hany : (Piece.fixed "ANY(").tokens.length = 4 := rfl
  have hcast : (Piece.fixed "CAST(").tokens.length = 5 := rfl
  -- the word that opens an expression is a token at least, so the parts have enough fuel with one unit less
  induction e generalizing fuel with
  | column table name =>
      obtain ⟨n, rfl⟩ := exists_eq_add_one_of_length_le hfuel
      intro ts
      rfl
  | boolean b =>
      obtain ⟨n, rfl⟩ := exists_eq_add_one_of_length_le hfuel
      intro ts
      cases b <;> rfl
  | parameter value =>
      obtain ⟨n, rfl⟩ := exists_eq_add_one_of_length_le hfuel
      intro ts
      rfl
  | and left right hleft hright =>
      obtain ⟨n, rfl⟩ := exists_eq_add_one_of_length_le hfuel
      intro ts
      rw [Expression.pieces] at hfuel ⊢
      simp only [List.cons_append, tokensOf_cons, tokensOf_append, List.length_append] at hfuel
      rw [List.cons_append, List.cons_append, tokensOf_cons, List.append_assoc, readExpression_group]
      exact readGroup_and (hleft (by omega)) (hright (by omega)) ts
  | binary left operator right hleft hright =>
      obtain ⟨n, rfl⟩ := exists_eq_add_one_of_length_le hfuel
      intro ts
      rw [Expression.pieces] at hfuel ⊢
      simp only [List.cons_append, tokensOf_cons, tokensOf_append, List.length_append] at hfuel
      rw [List.cons_append, List.cons_append, tokensOf_cons, List.append_assoc, readExpression_group]
      exact readGroup_binary (hleft (by omega)) operator (hright (by omega)) ts
  | between subject low high hsubject hlow hhigh =>
      obtain ⟨n, rfl⟩ := exists_eq_add_one_of_length_le hfuel
      intro ts
      rw [Expression.pieces] at hfuel ⊢
      simp only [List.cons_append, tokensOf_cons, tokensOf_append, List.length_append] at hfuel
      rw [List.cons_append, List.cons_append, List.cons_append, tokensOf_cons, List.append_assoc, readExpression_group]
      exact readGroup_between (hsubject (by omega)) (hlow (by omega)) (hhigh (by omega)) ts
  | any arguments harguments =>
      obtain ⟨n, rfl⟩ := exists_eq_add_one_of_length_le hfuel
      intro ts
      rw [Expression.pieces, piecesOfEach_eq_map] at hfuel ⊢
      simp only [List.cons_append, tokensOf_cons, tokensOf_append, List.length_append] at hfuel
      have hcount : arguments.length ≤ (tokensOf (commaSeparated (arguments.map Expression.pieces))).length :=
        length_le_tokensOf fun e _ => length_tokensOf_pos e
      rw [List.cons_append, tokensOf_cons, List.append_assoc, readExpression_any]
      refine readAny_arguments (fun e he => harguments e he ?_) (by omega) ts
      have hle := length_tokensOf_le (f := Expression.pieces) he
      omega
  | cast subject type hsubject =>
      obtain ⟨n, rfl⟩ := exists_eq_add_one_of_length_le hfuel
      intro ts
      rw [Expression.pieces] at hfuel ⊢
      simp only [List.cons_append, tokensOf_cons, tokensOf_append, List.length_append] at hfuel
      rw [List.cons_append, tokensOf_cons, List.append_assoc, readExpression_cast]
      exact readCast_subject (hsubject (by omega)) type ts

/-! ## Reading clauses -/

section Clauses

variable {expression : Reader Expression}

theorem readTable_tokens (table tableAlias : String) (ts : List Token) :
    readTable ((Piece.identifier table).tokens ++ ((Piece.fixed " AS ").tokens
      ++ ((Piece.identifier tableAlias).tokens ++ ts))) = some ((table, tableAlias), ts) := rfl

/-- Joins are read one after the other up to a word that begins no join. -/
theorem readJoins_tokensOf {joins : List Join} (hjoins : ∀ j ∈ joins, ReadsBack expression j.condition) {fuel : Nat}
    (hfuel : joins.length ≤ fuel) {ts : List Token} (hts : readOneOf joinWords ts = none) :
    readJoins expression fuel (tokensOf (joins.flatMap Join.pieces) ++ ts) = some (joins, ts) := by
  induction joins generalizing fuel with
  | nil =>
      cases fuel with
      | zero => rfl
      | succ n =>
          rw [readJoins, List.flatMap_nil, tokensOf_nil, List.nil_append]
          simp only [hts]
  | cons j rest ih =>
      rw [List.forall_mem_cons] at hjoins
      obtain ⟨n, rfl⟩ : ∃ n, fuel = n + 1 := ⟨fuel - 1, by rw [List.length_cons] at hfuel; omega⟩
      rw [List.length_cons, Nat.add_le_add_iff_right] at hfuel
      rw [List.flatMap_cons, Join.pieces, readJoins]
      simp only [tokensOf_append, tokensOf_cons, List.cons_append, List.append_assoc, readOneOf_joinWords,
        readTable_tokens, skip_fixed, hjoins.1 _, ih hjoins.2 hfuel, Option.bind_eq_bind, Option.bind_some]

/-- A clause that stands there is read, and without it nothing is taken. -/
theorem readClause_fixed {α : Type} {word : String} {none : α} {content : Reader α} (ts : List Token) :
    readClause word none content ((Piece.fixed word).tokens ++ ts) = content ts := by
  rw [readClause, skip_fixed]

theorem readClause_none {α : Type} {word : String} {none : α} {content : Reader α} {ts : List Token}
    (h : skip word ts = Option.none) : readClause word none content ts = some (none, ts) := by
  rw [readClause, h]

theorem readKey_tokensOf {k : OrderKey} (hsubject : ReadsBack expression k.subject) (ts : List Token) :
    readKey expression (tokensOf k.pieces ++ ts) = some (k, ts) := by
  rw [OrderKey.pieces, readKey]
  simp only [tokensOf_append, tokensOf_cons, tokensOf_nil, List.append_assoc, List.nil_append, hsubject _,
    readOneOf_directionWords, Option.bind_eq_bind, Option.bind_some]

theorem digitsOf_map {cs : List Char} (h : ∀ c ∈ cs, c.isDigit = true) : digitsOf (cs.map .char) = (cs, []) := by
  induction cs with
  | nil => rfl
  | cons c cs ih =>
      rw [List.forall_mem_cons] at h
      rw [List.map_cons, digitsOf, if_pos h.1, ih h.2]

/-- A number that stands at the end is read back. -/
theorem readNumber_tokens (n : Nat) : readNumber (Piece.number n).tokens = some (n, []) := by
  rw [readNumber, Piece.tokens, digitsOf_map fun c hc => isDigit_of_mem_toString hc]
  simp only [toList_toString_nat]
  cases hdigits : Nat.toDigits 10 n with
  | nil => exact absurd hdigits Nat.toDigits_ne_nil
  | cons d ds =>
      simp only
      rw [← hdigits, Nat.ofDigitChars_ten_toDigits]

/-- Only the literal true is left out as a condition. -/
theorem isTrue_eq_true_iff (e : Expression) : e.isTrue = true ↔ e = .boolean true := by
  cases e <;> simp [Expression.isTrue]

/-- A condition is read back where no other follows; a missing one is the literal true. -/
theorem readClause_condition {e : Expression} (he : ReadsBack expression e) {ts : List Token}
    (hts : skip " WHERE " ts = none) :
    readClause " WHERE " (.boolean true) expression (tokensOf (conditionPieces e) ++ ts) = some (e, ts) := by
  unfold conditionPieces
  by_cases htrue : e.isTrue = true
  · -- the literal true leaves no clause, and no clause is read as the literal true
    rw [if_pos htrue, tokensOf_nil, List.nil_append, readClause_none hts, (isTrue_eq_true_iff e).1 htrue]
  · rw [if_neg htrue, tokensOf_cons, List.append_assoc, readClause_fixed, he]

/-- An order is read back where neither another key nor another order follows. -/
theorem readClause_order {keys : List OrderKey} (hkeys : ∀ k ∈ keys, ReadsBack expression k.subject) {fuel : Nat}
    (hfuel : keys.length ≤ fuel) {ts : List Token} (hts : skip " ORDER BY " ts = none) (hcomma : skip ", " ts = none) :
    readClause " ORDER BY " [] (readMore (readKey expression) fuel) (tokensOf (orderPieces keys) ++ ts) =
      some (keys, ts) := by
  cases keys with
  | nil => rw [orderPieces, tokensOf_nil, List.nil_append, readClause_none hts]
  | cons k rest =>
      rw [orderPieces, tokensOf_cons, List.append_assoc, readClause_fixed]
      exact readMore_commaSeparated (List.cons_ne_nil k rest) (fun k hk => readKey_tokensOf (hkeys k hk)) hfuel hcomma

/-- A limit is read back at the end. -/
theorem readClause_limit (limit : Option Nat) :
    readClause " LIMIT " none (fun ts => (readNumber ts).map fun (n, ts) => (some n, ts))
      (tokensOf (limitPieces limit)) = some (limit, []) := by
  cases limit with
  | none => rfl
  | some n =>
      rw [limitPieces, tokensOf_cons, readClause_fixed, tokensOf_cons, tokensOf_nil, List.append_nil, readNumber_tokens]
      rfl

end Clauses

end QueryGate.Statement
