import QueryGate.Number.Reading
import QueryGate.Proofs.Number.Rounding
/-!
The number that a text stands for. What a numeral looks like and which rational number it is are said without the reader:
an optional sign, digits with an optional point among them, and an optional exponent of ten. A text that is a numeral is
read as the double of its rational number, whose size alone settles the numerals far outside the range; a text that is
none is read as nothing, or as one of the numbers that are not finite.
-/
set_option autoImplicit false

namespace QueryGate.Number

/-! ## Decimals -/

namespace Decimal

/-- The rational number that a decimal is. -/
def toRat (d : Decimal) : ℚ := d.digits * 10 ^ d.exponent

theorem ten_zpow_pos (e : ℤ) : (0 : ℚ) < 10 ^ e := zpow_pos (by norm_num) e

/-- A number has no more digits than it needs. -/
theorem zpow_width_le {n : ℕ} (h : n ≠ 0) : (10 : ℚ) ^ (width n - 1 : ℤ) ≤ n := by
  have hpos : 0 < width n := Nat.length_toDigits_pos
  have hcast : (width n - 1 : ℤ) = (width n - 1 : ℕ) := by omega
  have hle : 10 ^ (width n - 1) ≤ n := by
    by_contra hlt
    by_cases hone : width n - 1 = 0
    · rw [hone] at hlt
      omega
    · have hshort := (Nat.length_toDigits_le_iff (by decide) (Nat.pos_of_ne_zero hone)).2 (not_le.1 hlt)
      have hwidth : width n = (Nat.toDigits 10 n).length := rfl
      omega
  rw [hcast, zpow_natCast]
  exact_mod_cast hle

/-- A number has the digits that it needs. -/
theorem lt_zpow_width (n : ℕ) : (n : ℚ) < 10 ^ (width n : ℤ) := by
  rw [zpow_natCast]
  exact_mod_cast (Nat.length_toDigits_le_iff (by decide) Nat.length_toDigits_pos).1 (Nat.le_refl (width n))

/-- The size of a decimal says what it is up to a factor of ten. -/
theorem zpow_le_toRat_and_toRat_lt {d : Decimal} (h : d.digits ≠ 0) :
    (10 : ℚ) ^ (width d.digits + d.exponent - 1) ≤ d.toRat ∧ d.toRat < 10 ^ (width d.digits + d.exponent) := by
  have hten : (10 : ℚ) ≠ 0 := by norm_num
  constructor
  · have hsplit : (width d.digits + d.exponent - 1 : ℤ) = (width d.digits - 1) + d.exponent := by ring
    rw [hsplit, zpow_add₀ hten]
    exact mul_le_mul_of_nonneg_right (zpow_width_le h) (ten_zpow_pos _).le
  · rw [zpow_add₀ hten]
    exact mul_lt_mul_of_pos_right (lt_zpow_width _) (ten_zpow_pos _)

theorem two_pow_le_ten_pow : (2 : ℚ) ^ 1024 ≤ 10 ^ (310 : ℤ) := by
  have hpow : 2 ^ 1024 ≤ 10 ^ 310 := by decide +kernel
  exact_mod_cast hpow

theorem ten_zpow_le_two_zpow : (10 : ℚ) ^ (-331 : ℤ) ≤ 2 ^ (-1075 : ℤ) := by
  have hpow : 2 ^ 1075 ≤ 10 ^ 331 := by decide +kernel
  rw [zpow_neg, zpow_neg]
  exact inv_anti₀ (two_zpow_pos 1075) (by exact_mod_cast hpow)

theorem toBinary64_true (d : Decimal) : d.toBinary64 true = (d.toBinary64 false).neg := by
  unfold toBinary64
  simp only
  split_ifs
  · rfl
  · rfl
  · rfl
  · cases d.exponent with
    | ofNat k => exact Binary64.ofRatio_true _ _
    | negSucc k => exact Binary64.ofRatio_true _ _

/-- Written out as a fraction, a decimal of any size is rounded to its double. -/
theorem isDouble_fraction (d : Decimal) :
    IsDouble d.toRat (match d.exponent with
      | .ofNat k => Binary64.ofRatio false (d.digits * Nat.pow 10 k) 1
      | .negSucc k => Binary64.ofRatio false d.digits (Nat.pow 10 (k + 1))).toRat? := by
  obtain ⟨digits, exponent⟩ := d
  cases exponent with
  | ofNat k =>
      have hvalue : ((digits * Nat.pow 10 k : ℕ) : ℚ) / (1 : ℕ) = toRat ⟨digits, .ofNat k⟩ := by
        rw [toRat, Int.ofNat_eq_natCast, zpow_natCast, Nat.cast_one, div_one, Nat.cast_mul]
        exact congrArg _ (Nat.cast_pow 10 k)
      rw [← hvalue]
      exact Binary64.isDouble_ofRatio_false _ one_ne_zero
  | negSucc k =>
      have hvalue : (digits : ℚ) / (Nat.pow 10 (k + 1) : ℕ) = toRat ⟨digits, .negSucc k⟩ := by
        rw [toRat, zpow_negSucc, div_eq_mul_inv]
        exact congrArg (fun power : ℚ => digits * power⁻¹) (Nat.cast_pow 10 (k + 1))
      rw [← hvalue]
      exact Binary64.isDouble_ofRatio_false _ (Nat.pow_pos (by decide : 0 < 10)).ne'

/-- The number of a decimal is its double. What its size alone settles is too great for the format, or too small. -/
theorem isDouble_toBinary64_false (d : Decimal) : IsDouble d.toRat (d.toBinary64 false).toRat? := by
  unfold toBinary64
  by_cases hzero : d.digits = 0
  · rw [if_pos hzero, toRat, hzero, Binary64.toRat?]
    simpa using isDouble_natCast (by decide : 0 < 2 ^ 53)
  · rw [if_neg hzero]
    simp only
    obtain ⟨hlow, hhigh⟩ := zpow_le_toRat_and_toRat_lt hzero
    have hdouble := d.isDouble_fraction
    have hten : (1 : ℚ) ≤ 10 := by norm_num
    by_cases hlarge : 310 < (width d.digits + d.exponent : ℤ)
    · have hpow : (10 : ℚ) ^ (310 : ℤ) ≤ 10 ^ (width d.digits + d.exponent - 1) := zpow_le_zpow_right₀ hten (by omega)
      rw [hdouble.eq_none (two_pow_le_ten_pow.trans (hpow.trans hlow))] at hdouble
      rwa [if_pos hlarge]
    · rw [if_neg hlarge]
      by_cases hsmall : (width d.digits + d.exponent : ℤ) < -330
      · have hpow : (10 : ℚ) ^ (width d.digits + d.exponent) ≤ 10 ^ (-331 : ℤ) := zpow_le_zpow_right₀ hten (by omega)
        have habs : |d.toRat| = d.toRat := abs_of_nonneg ((ten_zpow_pos _).le.trans hlow)
        rw [hdouble.eq_zero (habs.symm ▸ hhigh.trans_le (hpow.trans ten_zpow_le_two_zpow))] at hdouble
        rwa [if_pos hsmall, Binary64.toRat?, Nat.cast_zero, zero_mul, mul_zero]
      · rwa [if_neg hsmall]

/-- The number of a decimal with a sign is the double of the decimal with that sign. -/
theorem isDouble_toBinary64 (negative : Bool) (d : Decimal) :
    IsDouble ((if negative then -1 else 1) * d.toRat) (d.toBinary64 negative).toRat? := by
  cases negative with
  | false =>
      rw [if_neg Bool.false_ne_true, one_mul]
      exact d.isDouble_toBinary64_false
  | true =>
      rw [if_pos rfl, neg_one_mul, toBinary64_true, Binary64.toRat?_neg]
      exact d.isDouble_toBinary64_false.neg

end Decimal

/-! ## Numerals -/

/-- A sign that may be left out, and whether it is that of negative numbers. -/
inductive IsSign : List Char → Bool → Prop where
  | none : IsSign [] false
  | plus : IsSign ['+'] false
  | minus : IsSign ['-'] true

/-- Digits, with a point before, between or behind them or without one, and the rational number that they are. -/
inductive IsMantissa : List Char → ℚ → Prop where
  | whole {digits : List Char} (nonempty : digits ≠ []) (digit : ∀ c ∈ digits, c.isDigit = true) :
      IsMantissa digits (Nat.ofDigitChars 10 digits 0)
  | point {whole fraction : List Char} (nonempty : whole ++ fraction ≠ [])
      (digit : ∀ c ∈ whole ++ fraction, c.isDigit = true) :
      IsMantissa (whole ++ '.' :: fraction)
        (Nat.ofDigitChars 10 whole 0 + Nat.ofDigitChars 10 fraction 0 / 10 ^ fraction.length)

/-- An exponent that may be left out, and the whole number that it is. -/
inductive IsExponent : List Char → ℤ → Prop where
  | none : IsExponent [] 0
  | marked {mark : Char} {sign digits : List Char} {negative : Bool} (mark_eq : mark = 'e' ∨ mark = 'E')
      (signed : IsSign sign negative) (nonempty : digits ≠ []) (digit : ∀ c ∈ digits, c.isDigit = true) :
      IsExponent (mark :: (sign ++ digits)) ((if negative then -1 else 1) * Nat.ofDigitChars 10 digits 0)

/-- A numeral and the rational number that it is. -/
inductive IsNumeral : List Char → ℚ → Prop where
  | mk {sign mantissa exponent : List Char} {negative : Bool} {m : ℚ} {e : ℤ} (signed : IsSign sign negative)
      (valued : IsMantissa mantissa m) (scaled : IsExponent exponent e) :
      IsNumeral (sign ++ (mantissa ++ exponent)) ((if negative then -1 else 1) * (m * 10 ^ e))

/-- The value of digits, as the standard library has it. -/
theorem appendDigits_eq (n : ℕ) (digits : List Char) : appendDigits n digits = Nat.ofDigitChars 10 digits n := by
  rw [appendDigits, Nat.ofDigitChars_eq_foldl]
  congr 1
  funext sofar c
  rw [digitValue, Nat.mul_comm]

/-- A whole number scaled by the digits behind the point is the digits before the point and the fraction behind it. -/
theorem Decimal.toRat_digits (whole fraction : List Char) (e : ℤ) :
    Decimal.toRat ⟨appendDigits 0 (whole ++ fraction), e - fraction.length⟩ =
      (Nat.ofDigitChars 10 whole 0 + Nat.ofDigitChars 10 fraction 0 / 10 ^ fraction.length) * 10 ^ e := by
  have hten : (10 : ℚ) ≠ 0 := by norm_num
  rw [Decimal.toRat, appendDigits_eq, Nat.ofDigitChars_append, Nat.ofDigitChars_eq_ofDigitChars_zero, zpow_sub₀ hten,
    zpow_natCast]
  push_cast
  field_simp

/-! ### Signs -/

/-- What is split off is a sign. -/
theorem exists_sign_append (cs : List Char) : ∃ sign, cs = sign ++ (splitSign cs).2 ∧ IsSign sign (splitSign cs).1 := by
  unfold splitSign
  split
  · exact ⟨['+'], rfl, .plus⟩
  · exact ⟨['-'], rfl, .minus⟩
  · exact ⟨[], rfl, .none⟩

/-- A sign is split off from what does not start with one. -/
theorem splitSign_append {sign rest : List Char} {negative : Bool} (h : IsSign sign negative)
    (hrest : ∀ c ∈ rest.head?, c ≠ '+' ∧ c ≠ '-') : splitSign (sign ++ rest) = (negative, rest) := by
  cases h with
  | none =>
      rw [List.nil_append, splitSign]
      · rintro rest' rfl
        exact (hrest '+' rfl).1 rfl
      · rintro rest' rfl
        exact (hrest '-' rfl).2 rfl
  | plus => rfl
  | minus => rfl

theorem ne_sign_of_isDigit {c : Char} (h : c.isDigit = true) : c ≠ '+' ∧ c ≠ '-' := by
  constructor <;> rintro rfl <;> exact absurd h (by decide)

/-! ### Exponents -/

/-- The factor of a sign. -/
theorem ite_neg_eq (negative : Bool) (n : ℤ) : (if negative then -n else n) = (if negative then -1 else 1) * n := by
  cases negative <;> simp

/-- An exponent is read as the whole number that it is, and nothing else is read. -/
theorem readExponent_eq_some_iff (cs : List Char) (e : ℤ) : readExponent cs = some e ↔ IsExponent cs e := by
  constructor
  · intro h
    cases cs with
    | nil =>
        cases h
        exact .none
    | cons mark rest =>
        obtain ⟨sign, hsplit, hsign⟩ := exists_sign_append rest
        rw [readExponent] at h
        by_cases hmark : mark = 'e' ∨ mark = 'E'
        · rw [if_pos hmark] at h
          simp only at h
          split at h
          · cases h
          · rename_i hdigits
            rw [not_or, not_not, List.isEmpty_iff, List.all_eq_true] at hdigits
            rw [ite_neg_eq, appendDigits_eq, Option.some.injEq] at h
            rw [hsplit, ← h]
            exact .marked hmark hsign hdigits.1 hdigits.2
        · rw [if_neg hmark] at h
          cases h
  · intro h
    cases h with
    | none => rfl
    | @marked mark sign digits negative mark_eq signed nonempty digit =>
        have hsplit : splitSign (sign ++ digits) = (negative, digits) :=
          splitSign_append signed fun c hc => ne_sign_of_isDigit (digit c (List.mem_of_mem_head? hc))
        have hdigits : ¬(digits.isEmpty = true ∨ ¬digits.all Char.isDigit = true) := by
          rw [not_or, not_not, List.isEmpty_iff, List.all_eq_true]
          exact ⟨nonempty, digit⟩
        rw [readExponent, if_pos mark_eq, hsplit]
        simp only
        rw [if_neg hdigits, ite_neg_eq, appendDigits_eq]

/-- An exponent starts with its mark. -/
theorem IsExponent.head_eq {cs : List Char} {e : ℤ} (h : IsExponent cs e) : ∀ c ∈ cs.head?, c = 'e' ∨ c = 'E' := by
  cases h with
  | none => nofun
  | marked mark_eq =>
      rintro c ⟨⟩
      exact mark_eq

/-! ### Mantissas -/

/-- Digits end where something else begins. -/
theorem takeWhile_isDigit_append {digits rest : List Char} (hdigits : ∀ c ∈ digits, c.isDigit = true)
    (hrest : ∀ c ∈ rest.head?, c.isDigit = false) :
    (digits ++ rest).takeWhile Char.isDigit = digits ∧ (digits ++ rest).dropWhile Char.isDigit = rest := by
  rw [List.takeWhile_append_of_pos hdigits, List.dropWhile_append_of_pos hdigits]
  cases rest with
  | nil => exact ⟨List.append_nil digits, rfl⟩
  | cons c rest =>
      have hc : ¬c.isDigit = true := by simp [hrest c rfl]
      rw [List.takeWhile_cons_of_neg hc, List.dropWhile_cons_of_neg hc]
      exact ⟨List.append_nil digits, rfl⟩

/-- A mantissa and an exponent are read as what they are. -/
theorem exists_readDecimal {mantissa exponent : List Char} {m : ℚ} {e : ℤ} (hmantissa : IsMantissa mantissa m)
    (hexponent : IsExponent exponent e) :
    ∃ d, readDecimal (mantissa ++ exponent) = some d ∧ d.toRat = m * 10 ^ e := by
  have hmark : ∀ c ∈ exponent.head?, c.isDigit = false := by
    intro c hc
    rcases hexponent.head_eq c hc with rfl | rfl <;> rfl
  have hread := (readExponent_eq_some_iff exponent e).2 hexponent
  cases hmantissa with
  | whole nonempty digit =>
      obtain ⟨htake, hdrop⟩ := takeWhile_isDigit_append digit hmark
      have hvalue := Decimal.toRat_digits mantissa [] e
      rw [List.append_nil, List.length_nil, Nat.cast_zero, sub_zero, Nat.ofDigitChars_nil, Nat.cast_zero, zero_div,
        add_zero] at hvalue
      refine ⟨_, ?_, hvalue⟩
      have hpoint : ∀ more, exponent ≠ '.' :: more := by
        rintro more rfl
        simpa using hexponent.head_eq '.' rfl
      have hempty : ¬(mantissa.isEmpty = true ∧ ([] : List Char).isEmpty = true) := by simp [nonempty]
      rw [readDecimal, htake, hdrop]
      simp only
      rw [if_neg hempty, hread, List.append_nil, Option.map_some, List.length_nil, Nat.cast_zero, sub_zero]
  | @point whole fraction nonempty digit =>
      have hwhole : ∀ c ∈ whole, c.isDigit = true := fun c hc => digit c (List.mem_append_left _ hc)
      have hfraction : ∀ c ∈ fraction, c.isDigit = true := fun c hc => digit c (List.mem_append_right _ hc)
      have hpoint : ∀ c ∈ ('.' :: (fraction ++ exponent)).head?, c.isDigit = false := by
        rintro c ⟨⟩
        rfl
      obtain ⟨htake, hdrop⟩ := takeWhile_isDigit_append hwhole hpoint
      obtain ⟨htake', hdrop'⟩ := takeWhile_isDigit_append hfraction hmark
      refine ⟨_, ?_, Decimal.toRat_digits whole fraction e⟩
      rw [List.append_assoc, List.cons_append, readDecimal, htake, hdrop]
      simp only
      have hempty : ¬(whole.isEmpty = true ∧ fraction.isEmpty = true) := by
        rwa [List.isEmpty_iff, List.isEmpty_iff, ← List.append_eq_nil_iff]
      rw [htake', hdrop', if_neg hempty, hread]
      rfl

/-- The digits that a text starts with, and what is behind them. -/
theorem exists_digits_append (cs : List Char) :
    ∃ digits rest, cs.takeWhile Char.isDigit = digits ∧ cs.dropWhile Char.isDigit = rest ∧ cs = digits ++ rest
      ∧ ∀ c ∈ digits, c.isDigit = true :=
  ⟨_, _, rfl, rfl, List.takeWhile_append_dropWhile.symm, fun c hc => List.all_eq_true.1 List.all_takeWhile c hc⟩

/-- What is read as a decimal is a mantissa and an exponent. -/
theorem exists_of_readDecimal {cs : List Char} {d : Decimal} (h : readDecimal cs = some d) :
    ∃ mantissa exponent m e, cs = mantissa ++ exponent ∧ IsMantissa mantissa m ∧ IsExponent exponent e
      ∧ d.toRat = m * 10 ^ e := by
  obtain ⟨whole, rest, htake, hdrop, hcs, hwhole⟩ := exists_digits_append cs
  rw [readDecimal, htake, hdrop] at h
  rw [hcs]
  simp only at h
  split at h
  · -- behind the whole part stands a point
    rename_i more
    obtain ⟨fraction, rest, htake', hdrop', hmore, hfraction⟩ := exists_digits_append more
    rw [htake', hdrop'] at h
    rw [hmore]
    simp only at h
    split at h
    · cases h
    · rename_i hempty
      obtain ⟨e, he, rfl⟩ := Option.map_eq_some_iff.1 h
      rw [List.isEmpty_iff, List.isEmpty_iff, ← List.append_eq_nil_iff] at hempty
      have hdigits : ∀ c ∈ whole ++ fraction, c.isDigit = true :=
        fun c hc => (List.mem_append.1 hc).elim (hwhole c) (hfraction c)
      refine ⟨whole ++ '.' :: fraction, rest, _, e, ?_, .point hempty hdigits, (readExponent_eq_some_iff rest e).1 he,
        Decimal.toRat_digits whole fraction e⟩
      rw [List.append_assoc, List.cons_append]
  · simp only at h
    split at h
    · cases h
    · rename_i hempty
      obtain ⟨e, he, rfl⟩ := Option.map_eq_some_iff.1 h
      have hnonempty : whole ≠ [] := fun hnil => hempty (by simp [hnil])
      refine ⟨whole, rest, _, e, rfl, .whole hnonempty hwhole, (readExponent_eq_some_iff rest e).1 he, ?_⟩
      simpa using Decimal.toRat_digits whole [] e

/-! ### Numerals -/

/-- A mantissa starts with a digit or a point. -/
theorem IsMantissa.head_ne_sign {mantissa : List Char} {m : ℚ} (h : IsMantissa mantissa m) (rest : List Char) :
    ∀ c ∈ (mantissa ++ rest).head?, c ≠ '+' ∧ c ≠ '-' := by
  cases h with
  | whole nonempty digit =>
      rw [List.head?_append_of_ne_nil _ nonempty]
      exact fun c hc => ne_sign_of_isDigit (digit c (List.mem_of_mem_head? hc))
  | @point whole fraction nonempty digit =>
      cases whole with
      | nil =>
          rintro c ⟨⟩
          decide
      | cons first others =>
          rintro c ⟨⟩
          exact ne_sign_of_isDigit (digit first List.mem_cons_self)

/-- A text that is a numeral is read as the double of the rational number that it is. -/
theorem exists_ofText?_of_isNumeral {text : String} {q : ℚ} (h : IsNumeral text.toList q) :
    ∃ x, ofText? text = some x ∧ IsDouble q x.toRat? := by
  generalize htext : text.toList = cs at h
  cases h with
  | @mk sign mantissa exponent negative m e signed valued scaled =>
      obtain ⟨d, hd, hvalue⟩ := exists_readDecimal valued scaled
      have hsplit := splitSign_append signed (valued.head_ne_sign exponent)
      refine ⟨d.toBinary64 negative, ?_, hvalue ▸ d.isDouble_toBinary64 negative⟩
      rw [ofText?, htext, hsplit]
      simp only [hd]

/-- A text that is no numeral is read as no number that is finite. -/
theorem ofText?_of_not_isNumeral {text : String} (h : ∀ q, ¬IsNumeral text.toList q) :
    (ofText? text).bind Binary64.toRat? = none := by
  obtain ⟨sign, hsplit, hsign⟩ := exists_sign_append text.toList
  have hread : readDecimal (splitSign text.toList).2 = none := by
    rw [Option.eq_none_iff_forall_ne_some]
    intro d hd
    obtain ⟨mantissa, exponent, m, e, hcs, hmantissa, hexponent, -⟩ := exists_of_readDecimal hd
    rw [hsplit, hcs] at h
    exact h _ (IsNumeral.mk hsign hmantissa hexponent)
  rw [ofText?]
  simp only [hread]
  split_ifs <;> rfl

/-- Numerals are written with digits and these marks. -/
def IsNumeralChar (c : Char) : Prop := c.isDigit = true ∨ c ∈ ['+', '-', '.', 'e', 'E']

theorem IsSign.isNumeralChar {cs : List Char} {negative : Bool} (h : IsSign cs negative) :
    ∀ c ∈ cs, IsNumeralChar c := by
  cases h <;> simp [IsNumeralChar]

theorem IsMantissa.isNumeralChar {cs : List Char} {m : ℚ} (h : IsMantissa cs m) : ∀ c ∈ cs, IsNumeralChar c := by
  intro c hc
  cases h with
  | whole nonempty digit => exact .inl (digit c hc)
  | point nonempty digit =>
      rcases List.mem_append.1 hc with hwhole | hrest
      · exact .inl (digit c (List.mem_append_left _ hwhole))
      · rcases List.mem_cons.1 hrest with rfl | hfraction
        · exact .inr (by decide)
        · exact .inl (digit c (List.mem_append_right _ hfraction))

theorem IsExponent.isNumeralChar {cs : List Char} {e : ℤ} (h : IsExponent cs e) : ∀ c ∈ cs, IsNumeralChar c := by
  intro c hc
  cases h with
  | none => cases hc
  | marked mark_eq signed nonempty digit =>
      rcases List.mem_cons.1 hc with rfl | hrest
      · rcases mark_eq with rfl | rfl <;> exact .inr (by decide)
      · exact (List.mem_append.1 hrest).elim (signed.isNumeralChar c) fun hdigit => .inl (digit c hdigit)

theorem IsNumeral.isNumeralChar {cs : List Char} {q : ℚ} (h : IsNumeral cs q) : ∀ c ∈ cs, IsNumeralChar c := by
  obtain ⟨signed, valued, scaled⟩ := h
  intro c hc
  rcases List.mem_append.1 hc with hsign | hrest
  · exact signed.isNumeralChar c hsign
  · exact (List.mem_append.1 hrest).elim (valued.isNumeralChar c) (scaled.isNumeralChar c)

/-- A numeral has characters. -/
theorem IsNumeral.ne_nil {cs : List Char} {q : ℚ} (h : IsNumeral cs q) : cs ≠ [] := by
  obtain ⟨signed, valued, scaled⟩ := h
  cases valued with
  | whole nonempty digit => simp [nonempty]
  | point nonempty digit => simp

end QueryGate.Number
