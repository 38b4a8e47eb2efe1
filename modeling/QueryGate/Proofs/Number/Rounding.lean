import QueryGate.Proofs.Number.Nearest
import QueryGate.Proofs.Number.Value
/-!
The binary number of a fraction is the one that it is rounded to. The exponent is that of the unit of its last place, the
mantissa is the nearest whole number of units, and a mantissa that reaches its bound counts at the next exponent, where
the number is the same.

So the numbers that are read from decimals and from whole numbers are known without computing them: whole numbers below
the bound of mantissas are exact, and no natural number but zero is rounded to zero.
-/
set_option autoImplicit false

namespace QueryGate.Number

namespace Binary64

/-! ## The nearest whole number -/

/-- Rounding keeps the quotient below a half, and takes the next number above it. -/
theorem roundHalfEven_cases (num den : ℕ) :
    (roundHalfEven num den = num / den ∧ 2 * (num % den) ≤ den) ∨
      (roundHalfEven num den = num / den + 1 ∧ den ≤ 2 * (num % den)) := by
  unfold roundHalfEven
  simp only
  split_ifs <;> omega

/-- From a half it is rounded to an even number. -/
theorem even_roundHalfEven {num den : ℕ} (h : 2 * (num % den) = den) : Even (roundHalfEven num den) := by
  unfold roundHalfEven
  simp only
  rw [if_neg (not_lt.2 h.ge), if_neg (not_lt.2 h.le), Nat.even_iff]
  split <;> omega

section Fraction

variable (num : ℕ) {den : ℕ} (hden : den ≠ 0)
include hden

/-- A fraction is its whole part and the rest of the division. -/
theorem div_eq_add_mod_div : (num / den : ℚ) = (num / den : ℕ) + (num % den : ℕ) / (den : ℚ) := by
  have hcast : (den : ℚ) ≠ 0 := Nat.cast_ne_zero.2 hden
  rw [div_eq_iff hcast, add_mul, div_mul_cancel₀ _ hcast]
  exact_mod_cast (Nat.div_add_mod' num den).symm

/-- Rounding moves a fraction by a half at most, and by a half only from a tie. -/
theorem abs_sub_roundHalfEven_le :
    |(num / den : ℚ) - roundHalfEven num den| ≤ 1 / 2 ∧
      (|(num / den : ℚ) - roundHalfEven num den| = 1 / 2 → 2 * (num % den) = den) := by
  have hpos : (0 : ℚ) < den := Nat.cast_pos.2 (Nat.pos_of_ne_zero hden)
  have hrest : ((num % den : ℕ) : ℚ) / den < 1 := by
    rw [div_lt_one hpos]
    exact_mod_cast Nat.mod_lt num (Nat.pos_of_ne_zero hden)
  have htie : ((num % den : ℕ) : ℚ) / den = 1 / 2 → 2 * (num % den) = den := by
    intro hhalf
    rw [div_eq_div_iff hpos.ne' two_ne_zero, one_mul, mul_comm] at hhalf
    exact_mod_cast hhalf
  rw [div_eq_add_mod_div num hden]
  rcases roundHalfEven_cases num den with ⟨hround, hle⟩ | ⟨hround, hle⟩
  · have hhalf : ((num % den : ℕ) : ℚ) / den ≤ 1 / 2 := by
      rw [div_le_div_iff₀ hpos two_pos, one_mul, mul_comm]
      exact_mod_cast hle
    rw [hround, add_sub_cancel_left, abs_of_nonneg (by positivity)]
    exact ⟨hhalf, htie⟩
  · have hhalf : 1 / 2 ≤ ((num % den : ℕ) : ℚ) / den := by
      rw [div_le_div_iff₀ two_pos hpos, one_mul, mul_comm (_ : ℚ) 2]
      exact_mod_cast hle
    rw [hround, Nat.cast_add, Nat.cast_one, add_sub_add_left_eq_sub, abs_of_nonpos (by linarith)]
    exact ⟨by linarith, fun heq => htie (by linarith)⟩

/-- A fraction is rounded to the nearest whole number, and from a tie to the even one. -/
theorem isNearestMultiple_roundHalfEven : IsNearestMultiple (num / den) 0 (roundHalfEven num den) := by
  obtain ⟨hclose, htie⟩ := abs_sub_roundHalfEven_le num hden
  -- two whole numbers are at least one apart, so one of them is at least a half away
  have hapart (k : ℤ) (hk : k ≠ roundHalfEven num den) :
      1 ≤ |(num / den : ℚ) - k| + |(num / den : ℚ) - roundHalfEven num den| := by
    have hone : (1 : ℚ) ≤ |(k - roundHalfEven num den : ℤ)| := by
      exact_mod_cast Int.one_le_abs (sub_ne_zero.2 hk)
    have htriangle := abs_sub_le (k : ℚ) (num / den) (roundHalfEven num den)
    rw [abs_sub_comm (k : ℚ) (num / den)] at htriangle
    push_cast at hone
    linarith
  constructor
  · intro k
    rw [zpow_zero, mul_one, mul_one, Int.cast_natCast]
    by_cases hk : k = roundHalfEven num den
    · rw [hk, Int.cast_natCast]
    · linarith [hapart k hk]
  · intro k hk heq
    rw [zpow_zero, mul_one, mul_one, Int.cast_natCast] at heq
    exact_mod_cast even_roundHalfEven (htie (by linarith [hapart k hk]))

end Fraction

end Binary64

/-- A multiple of one that is nearest to a number in units is, in these units, nearest to the number. -/
theorem IsNearestMultiple.scale {x : ℚ} {e m : ℤ} (h : IsNearestMultiple (x / 2 ^ e) 0 m) : IsNearestMultiple x e m := by
  have hunit : (0 : ℚ) < 2 ^ e := two_zpow_pos e
  have hdistance (k : ℤ) : |x - k * 2 ^ e| = |x / 2 ^ e - k * 2 ^ (0 : ℤ)| * 2 ^ e := by
    rw [zpow_zero, mul_one, ← abs_of_pos hunit, ← abs_mul, abs_of_pos hunit, sub_mul, div_mul_cancel₀ _ hunit.ne']
  constructor
  · intro k
    rw [hdistance, hdistance]
    exact mul_le_mul_of_nonneg_right (h.nearest k) hunit.le
  · intro k hk heq
    rw [hdistance, hdistance] at heq
    exact h.even k hk (mul_right_cancel₀ hunit.ne' heq)

namespace Binary64

/-! ## The exponent -/

/-- Scaling a fraction down divides it by the power of two. -/
theorem scaleDown_eq (num den : ℕ) (e : ℤ) :
    ((scaleDown num den e).1 : ℚ) / (scaleDown num den e).2 = num / den / 2 ^ e := by
  have hcast (k : ℕ) : ((Nat.pow 2 k : ℕ) : ℚ) = 2 ^ k := Nat.cast_pow 2 k
  cases e with
  | ofNat k => rw [scaleDown, Nat.cast_mul, hcast, Int.ofNat_eq_natCast, zpow_natCast, div_div]
  | negSucc k => rw [scaleDown, Nat.cast_mul, hcast, zpow_negSucc, div_inv_eq_mul, mul_div_right_comm]

theorem scaleDown_ne_zero (num : ℕ) {den : ℕ} (h : den ≠ 0) (e : ℤ) : (scaleDown num den e).2 ≠ 0 := by
  cases e with
  | ofNat k => exact Nat.mul_ne_zero h (Nat.pow_pos Nat.two_pos).ne'
  | negSucc k => exact h

/-- A number is at least the power of two of its highest bit. -/
theorem zpow_log2_le {n : ℕ} (h : n ≠ 0) : (2 : ℚ) ^ (n.log2 : ℤ) ≤ n := by
  rw [zpow_natCast]
  exact_mod_cast Nat.log2_self_le h

theorem lt_zpow_log2 (n : ℕ) : (n : ℚ) < 2 ^ (n.log2 + 1 : ℤ) := by
  rw [← Nat.cast_succ, zpow_natCast]
  exact_mod_cast Nat.lt_log2_self

/-- The highest bits of the two sides of a fraction say what it is up to a factor of two. -/
theorem zpow_lt_div_and_div_lt {num den : ℕ} (hnum : num ≠ 0) (hden : den ≠ 0) :
    (2 : ℚ) ^ (num.log2 - den.log2 - 1 : ℤ) < num / den ∧ (num / den : ℚ) < 2 ^ (num.log2 - den.log2 + 1 : ℤ) := by
  have hpos : (0 : ℚ) < den := Nat.cast_pos.2 (Nat.pos_of_ne_zero hden)
  constructor
  · rw [lt_div_iff₀ hpos]
    calc (2 : ℚ) ^ (num.log2 - den.log2 - 1 : ℤ) * den
        < 2 ^ (num.log2 - den.log2 - 1 : ℤ) * 2 ^ (den.log2 + 1 : ℤ) :=
          mul_lt_mul_of_pos_left (lt_zpow_log2 den) (two_zpow_pos _)
      _ = 2 ^ (num.log2 : ℤ) := by
          rw [← zpow_add₀ two_ne_zero]
          congr 1
          omega
      _ ≤ num := zpow_log2_le hnum
  · rw [div_lt_iff₀ hpos]
    calc (num : ℚ) < 2 ^ (num.log2 + 1 : ℤ) := lt_zpow_log2 num
      _ = 2 ^ (num.log2 - den.log2 + 1 : ℤ) * 2 ^ (den.log2 : ℤ) := by
          rw [← zpow_add₀ two_ne_zero]
          congr 1
          omega
      _ ≤ 2 ^ (num.log2 - den.log2 + 1 : ℤ) * den :=
          mul_le_mul_of_nonneg_left (zpow_log2_le hden) (two_zpow_pos _).le

/-- A quotient of whole numbers is below a bound if the fraction is. -/
theorem div_lt_mantissaBound_iff (num : ℕ) {den : ℕ} (h : den ≠ 0) :
    num / den < mantissaBound ↔ (num / den : ℚ) < 2 ^ 53 := by
  have hpos : 0 < den := Nat.pos_of_ne_zero h
  rw [Nat.div_lt_iff_lt_mul hpos, div_lt_iff₀ (Nat.cast_pos.2 hpos)]
  exact_mod_cast Iff.rfl

/-- The exponent of a positive fraction is that of the unit of its last place. -/
theorem hasUnit_exponentFor {num den : ℕ} (hnum : num ≠ 0) (hden : den ≠ 0) :
    HasUnit (num / den) (exponentFor num den) := by
  obtain ⟨hlow, hhigh⟩ := zpow_lt_div_and_div_lt hnum hden
  have htest (e : ℤ) : (scaleDown num den e).1 / (scaleDown num den e).2 < mantissaBound ↔
      (num / den : ℚ) < 2 ^ (e + 53) := by
    have hpow : (2 : ℚ) ^ 53 * 2 ^ e = 2 ^ (e + 53) := by
      rw [zpow_add₀ two_ne_zero, mul_comm]
      rfl
    rw [div_lt_mantissaBound_iff _ (scaleDown_ne_zero num hden e), scaleDown_eq, div_lt_iff₀ (two_zpow_pos e), hpow]
  -- the first guess is right, or one too small; either may be below the least exponent
  obtain ⟨e, he, hlt, hle⟩ : ∃ e : ℤ, exponentFor num den = max leastExponent e ∧
      (num / den : ℚ) < 2 ^ (e + 53) ∧ (2 : ℚ) ^ (e + 52) ≤ num / den := by
    by_cases hguess : (num / den : ℚ) < 2 ^ (num.log2 - den.log2 - 53 + 53 : ℤ)
    · refine ⟨num.log2 - den.log2 - 53, ?_, hguess, ?_⟩
      · simp only [exponentFor, htest, if_pos hguess]
      · exact (zpow_le_zpow_right₀ one_le_two (by omega)).trans hlow.le
    · refine ⟨num.log2 - den.log2 - 53 + 1, ?_, ?_, ?_⟩
      · simp only [exponentFor, htest, if_neg hguess]
      · exact hhigh.trans_le (zpow_le_zpow_right₀ one_le_two (by omega))
      · exact (zpow_le_zpow_right₀ one_le_two (by omega)).trans (not_lt.1 hguess)
  rw [he, leastExponent]
  refine ⟨le_max_left _ _, hlt.trans_le (zpow_le_zpow_right₀ one_le_two (by omega)), fun hne => ?_⟩
  have hmax : max (-1074) e = e := by omega
  rwa [hmax]

/-! ## The number of a fraction -/

theorem ofRatio_true (num den : ℕ) : ofRatio true num den = (ofRatio false num den).neg := by
  unfold ofRatio
  split
  · rfl
  · simp only
    split_ifs <;> rfl

/-- The opposite number is the opposite rational number. -/
theorem toRat?_neg (x : Binary64) : x.neg.toRat? = x.toRat?.map (-·) := by
  cases x with
  | nan => rfl
  | infinity _ => rfl
  | finite negative mantissa exponent => cases negative <;> simp [neg, toRat?]

/-- The mantissa of a fraction is the nearest number of units. -/
theorem isNearestMultiple_ofRatio (num : ℕ) {den : ℕ} (hden : den ≠ 0) (e : ℤ) :
    IsNearestMultiple (num / den) e (roundHalfEven (scaleDown num den e).1 (scaleDown num den e).2) := by
  refine IsNearestMultiple.scale ?_
  rw [← scaleDown_eq]
  exact isNearestMultiple_roundHalfEven _ (scaleDown_ne_zero num hden e)

/-- A mantissa that has reached its bound is halved at the next exponent. The number is the same, and it has its 53 bits
again. -/
theorem exists_carry {x : ℚ} {e : ℤ} {m : ℕ} (hunit : HasUnit x e) (hnearest : IsNearestMultiple x e m) :
    ∃ (m' : ℕ) (e' : ℤ), (if m < mantissaBound then (m, e) else (m / 2, e + 1)) = (m', e') ∧
      ((m' : ℤ) : ℚ) * 2 ^ e' = (m : ℤ) * 2 ^ e ∧ (m' : ℤ) < 2 ^ 53 ∧ (e' ≠ -1074 → (2 : ℤ) ^ 52 ≤ m') := by
  have hbound : mantissaBound = 2 ^ 53 := rfl
  have hle : (m : ℤ) ≤ 2 ^ 53 := hnearest.le_of_le_mul (two_pow_mul_zpow 53 e ▸ hunit.lt.le)
  by_cases hm : m < mantissaBound
  · exact ⟨m, e, if_pos hm, rfl, by omega, hnearest.le_of_hasUnit hunit⟩
  · have hm' : m = 2 ^ 53 := by omega
    subst hm'
    exact ⟨2 ^ 52, e + 1, rfl, (mantissaBound_mul_zpow e).symm, by decide, fun _ => by decide⟩

/-- The number of a fraction is its double. -/
theorem isDouble_ofRatio_false (num : ℕ) {den : ℕ} (hden : den ≠ 0) :
    IsDouble (num / den) (ofRatio false num den).toRat? := by
  unfold ofRatio
  by_cases hnum : num = 0
  · rw [if_pos hnum, hnum, toRat?]
    simpa using isDouble_natCast (by decide : 0 < 2 ^ 53)
  · rw [if_neg hnum]
    simp only
    have hunit := hasUnit_exponentFor hnum hden
    have hnearest := isNearestMultiple_ofRatio num hden (exponentFor num den)
    generalize exponentFor num den = e at hunit hnearest ⊢
    generalize roundHalfEven _ _ = m at hnearest ⊢
    have hrounded : IsRounded (num / den) ((m : ℤ) * 2 ^ e) := hnearest.isRounded hunit (by positivity)
    obtain ⟨m', e', hcarry, hvalue, hlt, hnormal⟩ := exists_carry hunit hnearest
    have hbeyond := pow_le_mul_zpow_iff hlt hnormal
    have habs : |((m' : ℤ) : ℚ) * 2 ^ e'| = (m' : ℤ) * 2 ^ e' :=
      abs_of_nonneg (mul_nonneg (Int.cast_nonneg (Int.natCast_nonneg m')) (two_zpow_pos e').le)
    rw [← hvalue] at hrounded
    rw [hcarry, greatestExponent]
    by_cases hgreat : 971 < e'
    · rw [if_pos hgreat]
      exact .infinite hrounded (habs.symm ▸ hbeyond.2 hgreat)
    · rw [if_neg hgreat, toRat?, if_neg Bool.false_ne_true, one_mul, ← Int.cast_natCast]
      exact .finite hrounded (habs.symm ▸ lt_of_not_ge (mt hbeyond.1 hgreat))

/-- The number of a natural number is its double. -/
theorem isDouble_ofNat (n : ℕ) : IsDouble n (ofNat n).toRat? := by
  have hfraction := isDouble_ofRatio_false n one_ne_zero
  rwa [Nat.cast_one, div_one] at hfraction

/-- Natural numbers below the bound of mantissas are exact. -/
theorem toRat?_ofNat {n : ℕ} (h : n < mantissaBound) : (ofNat n).toRat? = some (n : ℚ) :=
  (isDouble_ofNat n).unique (isDouble_natCast h)

/-! ## Zero -/

/-- A finite number is zero if its mantissa is. -/
theorem isZero_finite_iff (negative : Bool) (mantissa : ℕ) (exponent : ℤ) :
    (finite negative mantissa exponent).isZero = true ↔ mantissa = 0 := by
  cases mantissa <;> simp [isZero]

theorem isZero_neg (x : Binary64) : x.neg.isZero = x.isZero := by
  cases x with
  | nan => rfl
  | infinity _ => rfl
  | finite _ mantissa _ => cases mantissa <;> rfl

/-- The two zeros are the numbers that are the rational number zero. -/
theorem isZero_iff (x : Binary64) : x.isZero = true ↔ x.toRat? = some 0 := by
  cases x with
  | nan => simp [isZero, toRat?]
  | infinity _ => simp [isZero, toRat?]
  | finite negative mantissa exponent =>
      have hpow : (2 : ℚ) ^ exponent ≠ 0 := (two_zpow_pos exponent).ne'
      rw [isZero_finite_iff, toRat?]
      cases negative <;> simp [hpow]

/-- Only zero is rounded to zero. -/
theorem isZero_ofNat_iff (n : ℕ) : (ofNat n).isZero = true ↔ n = 0 := by
  rw [isZero_iff]
  constructor
  · intro hzero
    by_contra hn
    have hone : (1 : ℚ) ≤ n := by exact_mod_cast Nat.pos_of_ne_zero hn
    have hdouble := isDouble_ofNat n
    rw [hzero] at hdouble
    -- one is binary, so what is not below it is not rounded to less
    cases hdouble with
    | finite rounded _ =>
        have hle := rounded.le_of_isBinary_le (isBinary_intCast (by decide : |(1 : ℤ)| < 2 ^ 53)) (by simpa using hone)
        norm_num at hle
  · rintro rfl
    exact toRat?_ofNat (by decide)

end Binary64

end QueryGate.Number
