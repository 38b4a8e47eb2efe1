import QueryGate.Proofs.Compile.Noise
import QueryGate.Proofs.Plan.Limit
/-!
The limit of a statement. It stands at the end of the text and is between one and the greatest limit, whatever the plan
gives; it follows the law of limits, so a plan that asks for a greater number gets no fewer rows, and lists around the
number make no difference to what the plan comes to.
-/
set_option autoImplicit false

namespace QueryGate.Statement

/-- The text of a statement with a limit ends in it. -/
theorem Select.text_render_of_limit {q : Select} {n : ℕ} (h : q.limit = some n) (s : Statement) :
    ∃ front, (q.render s).text = front ++ " LIMIT " ++ toString n := by
  unfold Select.render
  rw [h]
  exact ⟨_, rfl⟩

end QueryGate.Statement

namespace QueryGate.Compile

open Json Plan Statement

/-- The limit of an accepted plan, which is that of its statement, is read from its limit. -/
theorem limit_eq_of_compileValue {catalog : Catalog} {v : Value} {plan : ValidPlan} {query : Query}
    (h : compileValue catalog v = .ok (plan, query)) :
    query.select.limit = some plan.limit ∧ plan.limit = clampLimit (v.get? "limit") := by
  obtain ⟨-, hraw⟩ := (compileValue_eq_ok_iff catalog v _).1 h
  obtain ⟨hvalid, hcompiled⟩ := (compileRaw_eq_ok_iff catalog _ plan query).1 hraw
  obtain ⟨base, -, hkept, -⟩ := (validate_eq_ok_iff catalog _ plan).1 hvalid
  obtain ⟨base', joins, -, -, rfl⟩ := (compilePlan_eq_ok_iff catalog plan query).1 hcompiled
  have hlimit : clampLimit (v.get? "limit") = plan.limit := congrArg (·.limit) hkept
  exact ⟨rfl, hlimit.symm⟩

/-- A plan with another limit comes to the same if the limits do. -/
theorem compileValue_put_limit {catalog : Catalog} {v value : Value} (hobject : v.isObject = true)
    (h : clampLimit (v.get? "limit") = clampLimit (some value)) :
    compileValue catalog (v.put "limit" value) = compileValue catalog v := by
  refine compileValue_eq_of_readAlike hobject fun valid _ => ?_
  refine readAlike_of_get? "limit" (Value.isObject_put ..).symm
    (fun name _ hname => (Value.get?_put_of_ne v hname value).symm) nofun nofun nofun nofun nofun fun _ => ?_
  rw [Value.get?_put_self hobject, h]

/-- The statement of a plan that compiles ends in a limit between one and thirty. A plan asks for one rational number, or
for none, and the limit follows from that. A plan that asks for a greater number has no smaller limit, and a plan with its
limit in lists of one item comes to the same unless the limit is a truth value. -/
theorem limit_of_compileValue (catalog : Catalog) (v : Value) (plan : ValidPlan) (query : Query)
    (h : compileValue catalog v = .ok (plan, query)) :
    (∃ front, query.statement.text = front ++ " LIMIT " ++ toString plan.limit)
      ∧ 1 ≤ plan.limit ∧ plan.limit ≤ 30
      ∧ (∃! asked, Asks (v.get? "limit") asked)
      ∧ (∀ asked, Asks (v.get? "limit") asked → plan.limit = limitFor asked)
      ∧ (∀ catalog' v' plan' query' q q', compileValue catalog' v' = .ok (plan', query') →
          Asks (v.get? "limit") (some q) → Asks (v'.get? "limit") (some q') → 0 < q → q ≤ q' →
            plan.limit ≤ plan'.limit)
      ∧ ∀ value, v.get? "limit" = some value → (∀ b, value ≠ .boolean b) → ∀ depth,
          compileValue catalog (v.put "limit" (nested value depth)) = .ok (plan, query) := by
  obtain ⟨hselect, hlimit⟩ := limit_eq_of_compileValue h
  obtain ⟨hlow, hhigh⟩ := clampLimit_bounds (v.get? "limit")
  rw [← hlimit] at hlow hhigh
  refine ⟨Select.text_render_of_limit hselect .empty, hlow, hhigh, existsUnique_asks _, ?_, ?_, ?_⟩
  · intro asked hasked
    rw [hlimit, hasked.clampLimit_eq]
  · intro catalog' v' plan' query' q q' h' hasked hasked' hpositive hle
    rw [hlimit, (limit_eq_of_compileValue h').2, hasked.clampLimit_eq, hasked'.clampLimit_eq]
    exact limitFor_mono hpositive hle
  · intro value hvalue hboolean depth
    rw [compileValue_put_limit (Value.isObject_of_get? hvalue), h]
    rw [hvalue, clampLimit, clampLimit, requestedLimit_nested hboolean]

/-- A plan for books with a limit. -/
def booksUpTo (limit : Value) : Value := .object [("limit", limit), ("resource", .string "books")]

/-- The text of two and a half, with white space around it, asks for just that. -/
theorem asks_twoAndAHalf : Asks (some (.string " 2.5 ")) (some (5 / 2)) := by
  have hmantissa : Number.IsMantissa (['2'] ++ '.' :: ['5']) _ := .point (by decide) (by simp)
  have hnumeral := Number.IsNumeral.mk .none hmantissa .none
  have hvalue : (if false = true then -1 else 1 : ℚ) * ((Nat.ofDigitChars 10 ['2'] 0 +
      Nat.ofDigitChars 10 ['5'] 0 / 10 ^ ['5'].length) * 10 ^ (0 : ℤ)) = 5 / 2 := by
    have htwo : Nat.ofDigitChars 10 ['2'] 0 = 2 := by decide
    have hfive : Nat.ofDigitChars 10 ['5'] 0 = 5 := by decide
    norm_num [htwo, hfive]
  have hbinary : Number.IsBinary (5 / 2) := ⟨5, -1, by decide, by decide, by norm_num⟩
  have hwithin : |(5 / 2 : ℚ)| < 2 ^ 1024 := by
    have hsmall : |(5 / 2 : ℚ)| < 2 ^ 2 := by norm_num [abs_of_pos]
    exact hsmall.trans_le (pow_le_pow_right₀ one_le_two (by decide))
  have hspace : ∀ c ∈ [' '], Text.isBlank c = true := by simp [Text.isBlank]
  exact .numeral ⟨[' '], _, [' '], rfl, hspace, hspace, hvalue ▸ hnumeral⟩ (hbinary.isDouble hwithin)

/-- Two and a half books are three, in a text with lists around it, and a thousand books are thirty. -/
theorem compileValue_booksUpTo :
    ∃ plan query plan' query',
      compileValue (.ofContract Contract.Library.contract) (booksUpTo (.list [.list [.string " 2.5 "]])) =
          .ok (plan, query)
        ∧ compileValue (.ofContract Contract.Library.contract) (booksUpTo (.number (.natural 1000))) =
          .ok (plan', query')
        ∧ (∃ front, query.statement.text = front ++ " LIMIT 3")
        ∧ (∃ front, query'.statement.text = front ++ " LIMIT 30")
        ∧ plan.limit ≤ plan'.limit := by
  have hasked' : Asks (some (.number (.natural 1000))) (some (1000 : ℕ)) := asks_natural (by decide)
  obtain ⟨plan, query, h⟩ : ∃ plan query,
      compileValue (.ofContract Contract.Library.contract) (booksUpTo (.string " 2.5 ")) = .ok (plan, query) :=
    ⟨_, _, rfl⟩
  obtain ⟨plan', query', h'⟩ : ∃ plan' query',
      compileValue (.ofContract Contract.Library.contract) (booksUpTo (.number (.natural 1000))) = .ok (plan', query') :=
    ⟨_, _, rfl⟩
  obtain ⟨⟨front, htext⟩, -, -, -, hlaw, hmono, hnested⟩ :=
    limit_of_compileValue (.ofContract Contract.Library.contract) (booksUpTo (.string " 2.5 ")) plan query h
  obtain ⟨⟨front', htext'⟩, -, -, -, hlaw', -, -⟩ :=
    limit_of_compileValue (.ofContract Contract.Library.contract) (booksUpTo (.number (.natural 1000))) plan' query' h'
  have hthree : plan.limit = 3 := by
    rw [hlaw _ asks_twoAndAHalf, limitFor, if_neg (by norm_num), if_neg (by norm_num), Nat.ceil_eq_iff (by decide)]
    norm_num
  have hthirty : plan'.limit = 30 := by
    rw [hlaw' _ hasked', limitFor, if_neg (by norm_num), if_pos (by norm_num)]
  rw [hthree, String.append_assoc] at htext
  rw [hthirty, String.append_assoc] at htext'
  refine ⟨plan, query, plan', query', hnested _ rfl (by simp) 2, h', ⟨front, htext⟩, ⟨front', htext'⟩, ?_⟩
  exact hmono _ _ plan' query' _ _ h' asks_twoAndAHalf hasked' (by norm_num) (by norm_num)

end QueryGate.Compile
