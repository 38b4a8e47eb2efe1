import QueryGate.Plan.Limit
import QueryGate.Proofs.Number.Reading
/-!
The law of the row limit. A plan asks for a rational number or for nothing that is one, and the limit depends on that
alone: the number rounded up, within bounds. So it grows with the number, and it is the same for a number and for a list
of that number alone.

What a plan asks for is said without the functions that read it. Whole numbers and the numerals in texts stand for their
doubles, and these are the nearest numbers of the format.
-/
set_option autoImplicit false

namespace QueryGate.Json

open Number

/-- What the double of a number of a JSON text is; nothing if the double is not finite. -/
inductive Numeral.Denotes : Numeral → Option ℚ → Prop where
  | natural {n : ℕ} {r : Option ℚ} (double : IsDouble n r) : Denotes (.natural n) r
  | negative {n : ℕ} {r : Option ℚ} (double : IsDouble (-(n + 1)) r) : Denotes (.negative n) r
  | real (x : Binary64) : Denotes (.real x) x.toRat?

theorem Numeral.denotes_toBinary64 (n : Numeral) : n.Denotes n.toBinary64.toRat? := by
  cases n with
  | natural n => exact .natural (Binary64.isDouble_ofNat n)
  | negative n =>
      have hdouble := (Binary64.isDouble_ofNat (n + 1)).neg
      rw [← Binary64.toRat?_neg, Nat.cast_succ] at hdouble
      exact .negative hdouble
  | real x => exact .real x

/-- The binary number of a number is its double. -/
theorem Numeral.denotes_iff (n : Numeral) (r : Option ℚ) : n.Denotes r ↔ n.toBinary64.toRat? = r := by
  constructor
  · intro h
    have hread := n.denotes_toBinary64
    cases h with
    | natural double =>
        cases hread with
        | natural double' => exact double'.unique double
    | negative double =>
        cases hread with
        | negative double' => exact double'.unique double
    | real x => rfl
  · rintro rfl
    exact n.denotes_toBinary64

end QueryGate.Json

namespace QueryGate.Plan

open Json Number

/-! ## What a plan asks for -/

/-- A text is a numeral for a rational number, up to white space around it. -/
def IsNumeralText (text : String) (q : ℚ) : Prop :=
  ∃ front body back, text.toList = front ++ body ++ back ∧ (∀ c ∈ front, Text.isBlank c = true)
    ∧ (∀ c ∈ back, Text.isBlank c = true) ∧ IsNumeral body q

/-- What a plan asks for with its limit, which is the rational number zero if it has none; nothing if that is no number,
or none that is finite. A list of one item asks for what the item does, but a truth value in a list is no number. -/
inductive Asks : Option Value → Option ℚ → Prop where
  | absent : Asks none (some 0)
  | null : Asks (some .null) (some 0)
  | yes : Asks (some (.boolean true)) (some 1)
  | no : Asks (some (.boolean false)) (some 0)
  | number {n : Numeral} {r : Option ℚ} (denotes : n.Denotes r) : Asks (some (.number n)) r
  | blank {text : String} (blank : ∀ c ∈ text.toList, Text.isBlank c = true) : Asks (some (.string text)) (some 0)
  | numeral {text : String} {q : ℚ} {r : Option ℚ} (numeral : IsNumeralText text q) (double : IsDouble q r) :
      Asks (some (.string text)) r
  | words {text : String} (not_blank : ¬∀ c ∈ text.toList, Text.isBlank c = true)
      (not_numeral : ∀ q, ¬IsNumeralText text q) : Asks (some (.string text)) none
  | empty : Asks (some (.list [])) (some 0)
  | item {item : Value} {r : Option ℚ} (not_boolean : ∀ b, item ≠ .boolean b) (asks : Asks (some item) r) :
      Asks (some (.list [item])) r
  | truth (b : Bool) : Asks (some (.list [.boolean b])) none
  | several (first second : Value) (rest : List Value) : Asks (some (.list (first :: second :: rest))) none
  | object (members : List (String × Value)) : Asks (some (.object members)) none

/-- The limit for a number: the least whole number that is not below it, but at most thirty; and five for a number that
is not positive, and for none. -/
def limitFor : Option ℚ → ℕ
  | none => 5
  | some q => if q ≤ 0 then 5 else if 30 < q then 30 else ⌈q⌉₊

theorem toRat?_zero : Binary64.zero.toRat? = some 0 := by
  rw [Binary64.zero, Binary64.toRat?, Nat.cast_zero, zero_mul, mul_zero]

theorem toRat?_one : (Binary64.ofNat 1).toRat? = some 1 := by
  rw [Binary64.toRat?_ofNat (by decide), Nat.cast_one]

/-! ### Texts -/

theorem isBlankText_iff (text : String) : Text.isBlankText text = true ↔ ∀ c ∈ text.toList, Text.isBlank c = true := by
  rw [Text.isBlankText, List.all_eq_true]

/-- No character of a numeral is white space. -/
theorem isBlank_of_isNumeralChar {c : Char} (h : IsNumeralChar c) : Text.isBlank c = false := by
  rcases h with hdigit | hmark
  · have hrange : 48 ≤ c.toNat ∧ c.toNat ≤ 57 := by simpa [Char.isDigit_iff_toNat] using hdigit
    simp [Text.isBlank]
    omega
  · simp only [List.mem_cons, List.not_mem_nil, or_false] at hmark
    rcases hmark with rfl | rfl | rfl | rfl | rfl <;> decide

/-- Without the white space around it, a text that is a numeral is read as the double. -/
theorem isDouble_numberOfText {text : String} {q : ℚ} (h : IsNumeralText text q) :
    IsDouble q (numberOfText text).toRat? := by
  obtain ⟨front, body, back, htext, hfront, hback, hnumeral⟩ := h
  have hbody : ∀ c ∈ body, Text.isBlank c = false := fun c hc => isBlank_of_isNumeralChar (hnumeral.isNumeralChar c hc)
  have hblank : ¬Text.isBlankText text = true := by
    rw [isBlankText_iff, htext]
    intro hall
    obtain ⟨c, hc⟩ := List.exists_mem_of_ne_nil body hnumeral.ne_nil
    have hblank := hall c (List.mem_append_left _ (List.mem_append_right _ hc))
    rw [hbody c hc] at hblank
    cases hblank
  have htrim : (Text.trim text).toList = body := by
    rw [Text.trim, String.toList_ofList, htext, Text.trimChars_append hfront hbody hback]
  obtain ⟨x, hx, hdouble⟩ := exists_ofText?_of_isNumeral (htrim.symm ▸ hnumeral)
  rwa [numberOfText, if_neg hblank, hx, Option.getD_some]

/-- A text with something in it that is no numeral is read as no number. -/
theorem toRat?_numberOfText {text : String} (hblank : ¬∀ c ∈ text.toList, Text.isBlank c = true)
    (hnumeral : ∀ q, ¬IsNumeralText text q) : (numberOfText text).toRat? = none := by
  have hread : (Number.ofText? (Text.trim text)).bind Binary64.toRat? = none := by
    refine ofText?_of_not_isNumeral fun q hq => ?_
    obtain ⟨front, back, htext, hfront, hback⟩ := Text.exists_append_trimChars text.toList
    rw [Text.trim, String.toList_ofList] at hq
    exact hnumeral q ⟨front, _, back, htext, hfront, hback, hq⟩
  rw [← isBlankText_iff] at hblank
  rw [numberOfText, if_neg hblank]
  cases hx : Number.ofText? (Text.trim text) with
  | none => rfl
  | some x =>
      rw [hx] at hread
      exact hread

/-- What a text is read as is what it asks for. -/
theorem asks_numberOfText (text : String) : Asks (some (.string text)) (numberOfText text).toRat? := by
  by_cases hblank : ∀ c ∈ text.toList, Text.isBlank c = true
  · rw [numberOfText, if_pos ((isBlankText_iff text).2 hblank), toRat?_zero]
    exact .blank hblank
  · by_cases hnumeral : ∃ q, IsNumeralText text q
    · obtain ⟨q, hq⟩ := hnumeral
      exact .numeral hq (isDouble_numberOfText hq)
    · rw [not_exists] at hnumeral
      rw [toRat?_numberOfText hblank hnumeral]
      exact .words hblank hnumeral

/-! ### Values -/

/-- A list of one item is read as the item, unless that is a truth value. -/
theorem requestedLimit_singleton {item : Value} (h : ∀ b, item ≠ .boolean b) :
    requestedLimit (some (.list [item])) = requestedLimit (some item) := by
  cases item with
  | boolean b => exact absurd rfl (h b)
  | null | number _ | string _ | list _ | object _ => simp only [requestedLimit, numberOfItems]

theorem numberOfItems_truth (b : Bool) : numberOfItems [.boolean b] = .nan := by
  rw [numberOfItems] <;> simp

theorem numberOfItems_several (first second : Value) (rest : List Value) :
    numberOfItems (first :: second :: rest) = .nan := by
  rw [numberOfItems] <;> simp

/-- What a value is read as is what it asks for. -/
theorem asks_requestedLimit_some (value : Value) : Asks (some value) (requestedLimit (some value)).toRat? :=
  match value with
  | .null => toRat?_zero.symm ▸ .null
  | .boolean false => toRat?_zero.symm ▸ .no
  | .boolean true => toRat?_one.symm ▸ .yes
  | .number n => .number n.denotes_toBinary64
  | .string text => asks_numberOfText text
  | .list [] => by
      rw [requestedLimit, numberOfItems, toRat?_zero]
      exact .empty
  | .list [item] => by
      by_cases hboolean : ∃ b, item = .boolean b
      · obtain ⟨b, rfl⟩ := hboolean
        rw [requestedLimit, numberOfItems_truth]
        exact .truth b
      · rw [not_exists] at hboolean
        rw [requestedLimit_singleton hboolean]
        exact .item hboolean (asks_requestedLimit_some item)
  | .list (first :: second :: rest) => by
      rw [requestedLimit, numberOfItems_several]
      exact .several first second rest
  | .object members => .object members

/-- What a limit is read as is what the plan asks for. -/
theorem asks_requestedLimit (limit : Option Value) : Asks limit (requestedLimit limit).toRat? := by
  cases limit with
  | none => exact toRat?_zero.symm ▸ .absent
  | some value => exact asks_requestedLimit_some value

/-- A plan asks for one number at most, the one that its limit is read as. -/
theorem Asks.toRat?_requestedLimit {limit : Option Value} {asked : Option ℚ} (h : Asks limit asked) :
    (requestedLimit limit).toRat? = asked := by
  induction h with
  | absent => exact toRat?_zero
  | null => exact toRat?_zero
  | yes => exact toRat?_one
  | no => exact toRat?_zero
  | number denotes => exact (Numeral.denotes_iff _ _).1 denotes
  | @blank text blank => rw [requestedLimit, numberOfText, if_pos ((isBlankText_iff text).2 blank), toRat?_zero]
  | numeral numeral double => exact (isDouble_numberOfText numeral).unique double
  | words not_blank not_numeral => exact toRat?_numberOfText not_blank not_numeral
  | empty => rw [requestedLimit, numberOfItems, toRat?_zero]
  | item not_boolean _ ih => rw [requestedLimit_singleton not_boolean, ih]
  | truth b => rw [requestedLimit, numberOfItems_truth, Binary64.toRat?]
  | several first second rest => rw [requestedLimit, numberOfItems_several, Binary64.toRat?]
  | object members => rfl

/-- Every plan asks for something, and for no two things. -/
theorem existsUnique_asks (limit : Option Value) : ∃! asked, Asks limit asked :=
  ⟨_, asks_requestedLimit limit, fun _ hasked => hasked.toRat?_requestedLimit.symm⟩

/-! ## The law -/

/-- The limit of a number is that of the rational number which it is. -/
theorem limitOfNumber_eq (x : Binary64) : limitOfNumber x = limitFor x.toRat? := by
  cases x with
  | nan => rfl
  | infinity negative => rfl
  | finite negative mantissa exponent =>
      rw [limitOfNumber, Binary64.toRat?, limitFor]
      have hpositive := Binary64.toRat_pos_iff negative mantissa exponent
      by_cases hunusable : negative = true ∨ mantissa = 0
      · rw [if_pos hunusable, if_pos (not_lt.1 fun h => hpositive.1 h hunusable), defaultLimit]
      · rw [if_neg hunusable, if_neg (not_le.2 (hpositive.2 hunusable))]
        obtain ⟨-, hden⟩ := Binary64.ratio_pos (not_or.1 hunusable).2 exponent
        rw [if_neg (not_or.1 hunusable).1, one_mul, ← Binary64.ratio_eq, Binary64.ceil_div_natCast _ hden]
        -- the comparison with the greatest limit is made in whole numbers, without the quotient
        have hmax : (30 : ℚ) = maxLimit := Nat.cast_ofNat.symm
        have hgreat : (30 : ℚ) < (Binary64.ratio mantissa exponent).1 / (Binary64.ratio mantissa exponent).2 ↔
            maxLimit * (Binary64.ratio mantissa exponent).2 < (Binary64.ratio mantissa exponent).1 := by
          rw [hmax, lt_div_iff₀ (Nat.cast_pos.2 hden), ← Nat.cast_mul, Nat.cast_lt]
        exact if_congr hgreat.symm rfl rfl

/-- The limit of a plan is that of the number which it asks for. -/
theorem Asks.clampLimit_eq {limit : Option Value} {asked : Option ℚ} (h : Asks limit asked) :
    clampLimit limit = limitFor asked := by
  rw [clampLimit, limitOfNumber_eq, h.toRat?_requestedLimit]

/-- The limit of a number is between one and thirty. -/
theorem limitFor_bounds (asked : Option ℚ) : 1 ≤ limitFor asked ∧ limitFor asked ≤ 30 := by
  cases asked with
  | none => decide
  | some q =>
      rw [limitFor]
      by_cases hpositive : q ≤ 0
      · rw [if_pos hpositive]
        decide
      · rw [if_neg hpositive]
        by_cases hgreat : 30 < q
        · rw [if_pos hgreat]
          decide
        · rw [if_neg hgreat]
          exact ⟨Nat.one_le_ceil_iff.2 (not_le.1 hpositive), Nat.ceil_le.2 (not_lt.1 hgreat)⟩

/-- Whatever a plan gives as its limit, the limit is between one and the greatest. -/
theorem clampLimit_bounds (limit : Option Value) : 1 ≤ clampLimit limit ∧ clampLimit limit ≤ maxLimit :=
  (asks_requestedLimit limit).clampLimit_eq ▸ limitFor_bounds _

/-- A whole number in these bounds is its own limit. -/
theorem limitFor_natCast {n : ℕ} (h : 1 ≤ n ∧ n ≤ maxLimit) : limitFor (some (n : ℚ)) = n := by
  have hpositive : ¬(n : ℚ) ≤ 0 := not_le.2 (Nat.cast_pos.2 h.1)
  have hwithin : ¬30 < (n : ℚ) := not_lt.2 (Nat.cast_le_ofNat.2 h.2)
  rw [limitFor, if_neg hpositive, if_neg hwithin, Nat.ceil_natCast]

/-- A whole number below the bound of mantissas asks for itself. -/
theorem asks_natural {n : ℕ} (h : n < 2 ^ 53) : Asks (some (.number (.natural n))) (some (n : ℚ)) :=
  .number (.natural (isDouble_natCast h))

/-- A limit in these bounds is read from its number. -/
theorem clampLimit_natural {n : ℕ} (h : 1 ≤ n ∧ n ≤ maxLimit) : clampLimit (some (.number (.natural n))) = n := by
  have hsmall : n < 2 ^ 53 := h.2.trans_lt (by decide)
  rw [(asks_natural hsmall).clampLimit_eq, limitFor_natCast h]

/-- The limit grows with the number. -/
theorem limitFor_mono {q q' : ℚ} (h : 0 < q) (hle : q ≤ q') : limitFor (some q) ≤ limitFor (some q') := by
  by_cases hgreat : 30 < q'
  · -- the greater number has the greatest limit
    have hlimit : limitFor (some q') = 30 := by rw [limitFor, if_neg (not_le.2 (h.trans_le hle)), if_pos hgreat]
    rw [hlimit]
    exact (limitFor_bounds (some q)).2
  · have hwithin : ¬30 < q := not_lt.2 (hle.trans (not_lt.1 hgreat))
    rw [limitFor, limitFor, if_neg (not_le.2 h), if_neg (not_le.2 (h.trans_le hle)), if_neg hgreat, if_neg hwithin]
    exact Nat.ceil_mono hle

/-! ## Lists of one item -/

/-- A value in as many lists as the depth says, each of which has the next one as its only item. -/
def nested (value : Value) : ℕ → Value
  | 0 => value
  | depth + 1 => .list [nested value depth]

/-- A value is read as the same in any number of lists, unless it is a truth value. -/
theorem requestedLimit_nested {value : Value} (h : ∀ b, value ≠ .boolean b) (depth : ℕ) :
    requestedLimit (some (nested value depth)) = requestedLimit (some value) := by
  induction depth with
  | zero => rfl
  | succ depth ih =>
      have hitem : ∀ b, nested value depth ≠ .boolean b := by
        cases depth with
        | zero => exact h
        | succ depth => simp [nested]
      rw [nested, requestedLimit_singleton hitem, ih]

end QueryGate.Plan
