import Mathlib.Algebra.Order.Field.Rat
import Mathlib.Algebra.Order.Ring.Abs
import Mathlib.Data.Int.Order.Lemmas
import Mathlib.Tactic.Linarith
import Mathlib.Tactic.NormNum
import Mathlib.Tactic.Positivity
import Mathlib.Tactic.Ring
/-!
Rounding to binary numbers, without saying how it is computed. A binary number is a whole number of at most 53 bits times
a power of two that is not below the least one. A rational number is rounded to the one that is nearest to it, and from a
tie to the one whose whole number can be even; then it is too great for the format or not. So no rational number is
rounded to two numbers, a binary number is rounded to itself, and rounding does not step over one.

That a rational number is rounded to something comes from the unit of its last place: near the number every binary number
is a multiple of that unit, so the nearest multiple is the nearest binary number.
-/
set_option autoImplicit false

namespace QueryGate.Number

/-! ## Binary numbers -/

/-- The numbers of the format, were there no greatest one. -/
def IsBinary (z : ℚ) : Prop := ∃ k f : ℤ, |k| < 2 ^ 53 ∧ -1074 ≤ f ∧ z = k * 2 ^ f

/-- The binary numbers with an even mantissa. -/
def IsEven (z : ℚ) : Prop := ∃ k f : ℤ, Even k ∧ |k| < 2 ^ 53 ∧ -1074 ≤ f ∧ z = k * 2 ^ f

theorem two_zpow_pos (f : ℤ) : (0 : ℚ) < 2 ^ f := zpow_pos two_pos f

theorem IsEven.isBinary {z : ℚ} (h : IsEven z) : IsBinary z := by
  obtain ⟨k, f, -, hk, hf, rfl⟩ := h
  exact ⟨k, f, hk, hf, rfl⟩

theorem IsBinary.neg {z : ℚ} (h : IsBinary z) : IsBinary (-z) := by
  obtain ⟨k, f, hk, hf, rfl⟩ := h
  exact ⟨-k, f, by rwa [abs_neg], hf, by rw [Int.cast_neg, neg_mul]⟩

theorem IsEven.neg {z : ℚ} (h : IsEven z) : IsEven (-z) := by
  obtain ⟨k, f, heven, hk, hf, rfl⟩ := h
  exact ⟨-k, f, heven.neg, by rwa [abs_neg], hf, by rw [Int.cast_neg, neg_mul]⟩

/-- A whole number below the bound of mantissas is binary. -/
theorem isBinary_intCast {k : ℤ} (h : |k| < 2 ^ 53) : IsBinary k :=
  ⟨k, 0, h, by decide, by rw [zpow_zero, mul_one]⟩

theorem isEven_zero : IsEven 0 := ⟨0, 0, Even.zero, by decide, by decide, by rw [Int.cast_zero, zero_mul]⟩

/-- A power of two that is not below the least one is binary. -/
theorem isBinary_zpow {f : ℤ} (h : -1074 ≤ f) : IsBinary (2 ^ f) :=
  ⟨1, f, by decide, h, by rw [Int.cast_one, one_mul]⟩

/-- A power of two times a unit is a power of two. -/
theorem two_pow_mul_zpow (n : ℕ) (f : ℤ) : ((2 ^ n : ℤ) : ℚ) * 2 ^ f = 2 ^ (f + n) := by
  rw [zpow_add₀ two_ne_zero, zpow_natCast, mul_comm, Int.cast_pow, Int.cast_ofNat]

/-- A multiple of a unit is compared with a power of two by the number of units. -/
theorem zpow_le_mul_zpow_iff (k : ℤ) (n : ℕ) (f : ℤ) : (2 : ℚ) ^ (f + n) ≤ k * 2 ^ f ↔ 2 ^ n ≤ k := by
  rw [← two_pow_mul_zpow, mul_le_mul_iff_of_pos_right (two_zpow_pos f), Int.cast_le]

theorem mul_zpow_lt_iff (k : ℤ) (n : ℕ) (f : ℤ) : (k : ℚ) * 2 ^ f < 2 ^ (f + n) ↔ k < 2 ^ n := by
  rw [← not_le, zpow_le_mul_zpow_iff, not_le]

/-- The bound of mantissas at one exponent is half of it at the next one. -/
theorem mantissaBound_mul_zpow (f : ℤ) : ((2 ^ 53 : ℤ) : ℚ) * 2 ^ f = ((2 ^ 52 : ℤ) : ℚ) * 2 ^ (f + 1) := by
  rw [two_pow_mul_zpow, two_pow_mul_zpow]
  congr 1
  push_cast
  ring

/-- Mantissas up to their bound and with it give binary numbers. -/
theorem isBinary_mul_zpow {m f : ℤ} (hm : 0 ≤ m) (hbound : m ≤ 2 ^ 53) (hf : -1074 ≤ f) : IsBinary (m * 2 ^ f) := by
  rcases hbound.lt_or_eq with hlt | rfl
  · exact ⟨m, f, by rwa [abs_of_nonneg hm], hf, rfl⟩
  · exact ⟨2 ^ 52, f + 1, by decide, by omega, mantissaBound_mul_zpow f⟩

/-- Even mantissas up to their bound and with it give even numbers. -/
theorem isEven_mul_zpow {m f : ℤ} (hm : 0 ≤ m) (hbound : m ≤ 2 ^ 53) (hf : -1074 ≤ f) (heven : Even m) :
    IsEven (m * 2 ^ f) := by
  rcases hbound.lt_or_eq with hlt | rfl
  · exact ⟨m, f, heven, by rwa [abs_of_nonneg hm], hf, rfl⟩
  · exact ⟨2 ^ 52, f + 1, by decide, by decide, by omega, mantissaBound_mul_zpow f⟩

/-- A multiple of a power of two is a multiple of each smaller one. -/
theorem mul_zpow_of_le (k : ℤ) {f e : ℤ} (h : e ≤ f) : (k : ℚ) * 2 ^ f = ((k * 2 ^ (f - e).toNat : ℤ) : ℚ) * 2 ^ e := by
  have hf : f = (f - e).toNat + e := by omega
  conv_lhs => rw [hf, zpow_add₀ two_ne_zero, zpow_natCast]
  push_cast
  ring

/-- The whole number next to an even one below the bound of mantissas is below it too. -/
theorem abs_lt_of_even {k j : ℤ} (heven : Even k) (hk : |k| < 2 ^ 53) (hj : |j - k| = 1) : |j| < 2 ^ 53 := by
  obtain ⟨i, rfl⟩ := heven
  rw [abs_lt] at hk ⊢
  rcases abs_cases (j - (i + i)) with ⟨habs, -⟩ | ⟨habs, -⟩ <;> omega

/-- Between an even number and an even multiple of a greater power of two there is a binary number, which is the next
multiple of the smaller power. -/
theorem exists_isBinary_between_of_le {k l f g : ℤ} (hkeven : Even k) (hleven : Even l) (hk : |k| < 2 ^ 53)
    (hf : -1074 ≤ f) (hfg : f ≤ g) (hlt : (k : ℚ) * 2 ^ f < l * 2 ^ g) :
    ∃ x, IsBinary x ∧ (k : ℚ) * 2 ^ f < x ∧ x < l * 2 ^ g := by
  rw [mul_zpow_of_le l hfg] at hlt ⊢
  have heven : Even (l * 2 ^ (g - f).toNat) := hleven.mul_right _
  generalize l * 2 ^ (g - f).toNat = l' at hlt heven ⊢
  have hkl : k < l' := Int.cast_lt.1 (lt_of_mul_lt_mul_right hlt (two_zpow_pos f).le)
  have hnext : k + 1 < l' := by
    obtain ⟨i, rfl⟩ := hkeven
    obtain ⟨j, rfl⟩ := heven
    omega
  refine ⟨(k + 1 : ℤ) * 2 ^ f, ⟨k + 1, f, abs_lt_of_even hkeven hk (by simp), hf, rfl⟩, ?_, ?_⟩
  · exact mul_lt_mul_of_pos_right (Int.cast_lt.2 (lt_add_one k)) (two_zpow_pos f)
  · exact mul_lt_mul_of_pos_right (Int.cast_lt.2 hnext) (two_zpow_pos f)

/-- Between two even numbers there is a binary number. -/
theorem exists_isBinary_between {y z : ℚ} (hy : IsEven y) (hz : IsEven z) (hlt : y < z) :
    ∃ x, IsBinary x ∧ y < x ∧ x < z := by
  obtain ⟨k, f, hkeven, hk, hf, rfl⟩ := hy
  obtain ⟨l, g, hleven, hl, hg, rfl⟩ := hz
  rcases le_total f g with hfg | hgf
  · exact exists_isBinary_between_of_le hkeven hleven hk hf hfg hlt
  · -- the greater one has the smaller power, so its opposite is the smaller one of the two opposites
    have hneg : ((-l : ℤ) : ℚ) * 2 ^ g < (-k : ℤ) * 2 ^ f := by
      rwa [Int.cast_neg, Int.cast_neg, neg_mul, neg_mul, neg_lt_neg_iff]
    obtain ⟨x, hx, hlow, hhigh⟩ :=
      exists_isBinary_between_of_le hleven.neg hkeven.neg (by rwa [abs_neg]) hg hgf hneg
    rw [Int.cast_neg, neg_mul] at hlow hhigh
    exact ⟨-x, hx.neg, lt_neg_of_lt_neg hhigh, neg_lt_of_neg_lt hlow⟩

/-! ## Rounding -/

/-- The binary number that a rational number is rounded to. -/
structure IsRounded (q y : ℚ) : Prop where
  binary : IsBinary y
  nearest (z : ℚ) : IsBinary z → |q - y| ≤ |q - z|
  /-- If another number is as near, this is the even one of the two. -/
  even (z : ℚ) : IsBinary z → z ≠ y → |q - z| = |q - y| → IsEven y

/-- What the number of the format for a rational number is. Numbers from `2 ^ 1024` on are infinite there, hence none. -/
inductive IsDouble (q : ℚ) : Option ℚ → Prop where
  | finite {y : ℚ} (rounded : IsRounded q y) (within : |y| < 2 ^ 1024) : IsDouble q (some y)
  | infinite {y : ℚ} (rounded : IsRounded q y) (beyond : 2 ^ 1024 ≤ |y|) : IsDouble q none

theorem abs_neg_sub_neg (q y : ℚ) : |-q - -y| = |q - y| := by
  rw [neg_sub_neg, abs_sub_comm]

theorem IsRounded.neg {q y : ℚ} (h : IsRounded q y) : IsRounded (-q) (-y) where
  binary := h.binary.neg
  nearest z hz := by
    rw [abs_neg_sub_neg, ← neg_neg z, abs_neg_sub_neg]
    exact h.nearest (-z) hz.neg
  even z hz hne htie := by
    rw [abs_neg_sub_neg, ← neg_neg z, abs_neg_sub_neg] at htie
    exact (h.even (-z) hz.neg (fun heq => hne (heq ▸ (neg_neg z).symm)) htie).neg

theorem IsDouble.neg {q : ℚ} {r : Option ℚ} (h : IsDouble q r) : IsDouble (-q) (r.map (-·)) := by
  cases h with
  | finite rounded within => exact .finite rounded.neg (by rwa [abs_neg])
  | infinite rounded beyond => exact .infinite rounded.neg (by rwa [abs_neg])

/-- A binary number that is not above a rational number is not above what this is rounded to. -/
theorem IsRounded.le_of_isBinary_le {q y z : ℚ} (h : IsRounded q y) (hz : IsBinary z) (hle : z ≤ q) : z ≤ y := by
  by_contra hlt
  have hnear := h.nearest z hz
  rw [abs_of_nonneg (by linarith), abs_of_nonneg (by linarith)] at hnear
  linarith

/-- A binary number that is not below a rational number is not below what this is rounded to. -/
theorem IsRounded.le_of_le_isBinary {q y z : ℚ} (h : IsRounded q y) (hz : IsBinary z) (hle : q ≤ z) : y ≤ z :=
  neg_le_neg_iff.1 (h.neg.le_of_isBinary_le hz.neg (neg_le_neg hle))

theorem IsRounded.eq_of_le {q y y' : ℚ} (h : IsRounded q y) (h' : IsRounded q y') (hle : y ≤ y') : y = y' := by
  by_contra hne
  have hdistance : |q - y| = |q - y'| := le_antisymm (h.nearest y' h'.binary) (h'.nearest y h.binary)
  have heven : IsEven y := h.even y' h'.binary (Ne.symm hne) hdistance.symm
  have heven' : IsEven y' := h'.even y h.binary hne hdistance
  -- the number between the two is not above the one or not below the other
  obtain ⟨x, hx, hyx, hxy'⟩ := exists_isBinary_between heven heven' (lt_of_le_of_ne hle hne)
  rcases le_total x q with hxq | hqx
  · exact absurd (h.le_of_isBinary_le hx hxq) (not_le.2 hyx)
  · exact absurd (h'.le_of_le_isBinary hx hqx) (not_le.2 hxy')

/-- No rational number is rounded to two numbers. -/
theorem IsRounded.unique {q y y' : ℚ} (h : IsRounded q y) (h' : IsRounded q y') : y = y' :=
  (le_total y y').elim (h.eq_of_le h') fun hle => (h'.eq_of_le h hle).symm

/-- A binary number is rounded to itself. -/
theorem IsBinary.isRounded {z : ℚ} (h : IsBinary z) : IsRounded z z where
  binary := h
  nearest x _ := by
    rw [sub_self, abs_zero]
    exact abs_nonneg _
  even x _ hne htie := by
    rw [sub_self, abs_zero, abs_eq_zero, sub_eq_zero] at htie
    exact absurd htie.symm hne

theorem IsDouble.unique {q : ℚ} {r r' : Option ℚ} (h : IsDouble q r) (h' : IsDouble q r') : r = r' := by
  cases h with
  | finite rounded within =>
      cases h' with
      | finite rounded' _ => rw [rounded.unique rounded']
      | infinite rounded' beyond => exact absurd (rounded.unique rounded' ▸ beyond) (not_le.2 within)
  | infinite rounded beyond =>
      cases h' with
      | finite rounded' within => exact absurd (rounded'.unique rounded ▸ within) (not_lt.2 beyond)
      | infinite _ _ => rfl

/-- A binary number that is not too great is its own double. -/
theorem IsBinary.isDouble {z : ℚ} (h : IsBinary z) (hwithin : |z| < 2 ^ 1024) : IsDouble z (some z) :=
  .finite h.isRounded hwithin

/-- From the least number that is too great on, all are. -/
theorem IsDouble.eq_none {q : ℚ} {r : Option ℚ} (h : IsDouble q r) (hq : 2 ^ 1024 ≤ q) : r = none := by
  cases h with
  | finite rounded within =>
      have hpow : (2 : ℚ) ^ 1024 = 2 ^ (1024 : ℤ) := (zpow_natCast 2 1024).symm
      rw [hpow] at hq within
      have hle := rounded.le_of_isBinary_le (isBinary_zpow (by decide)) hq
      exact absurd (hle.trans (le_abs_self _)) (not_le.2 within)
  | infinite _ _ => rfl

/-- A binary number is zero or at least as great as the least power of two, without its sign. -/
theorem IsBinary.zpow_le_abs {z : ℚ} (h : IsBinary z) (hz : z ≠ 0) : (2 : ℚ) ^ (-1074 : ℤ) ≤ |z| := by
  obtain ⟨k, f, -, hf, rfl⟩ := h
  have hk : k ≠ 0 := fun hk => hz (by rw [hk, Int.cast_zero, zero_mul])
  have hone : (1 : ℚ) ≤ |(k : ℚ)| := by exact_mod_cast Int.one_le_abs hk
  rw [abs_mul, abs_of_pos (two_zpow_pos f)]
  exact (zpow_le_zpow_right₀ one_le_two hf).trans (le_mul_of_one_le_left (two_zpow_pos f).le hone)

/-- Below half of the least power of two everything is rounded to zero. -/
theorem IsDouble.eq_zero {q : ℚ} {r : Option ℚ} (h : IsDouble q r) (hq : |q| < 2 ^ (-1075 : ℤ)) : r = some 0 := by
  have hhalf : (2 : ℚ) ^ (-1074 : ℤ) = 2 ^ (-1075 : ℤ) * 2 := zpow_add_one₀ two_ne_zero (-1075)
  have hzero {y : ℚ} (hy : IsRounded q y) : y = 0 := by
    by_contra hne
    have hnear := hy.nearest 0 isEven_zero.isBinary
    have hfar := hy.binary.zpow_le_abs hne
    have htriangle := abs_sub_abs_le_abs_sub y q
    rw [sub_zero, abs_sub_comm] at hnear
    linarith
  cases h with
  | finite rounded _ => rw [hzero rounded]
  | infinite rounded beyond =>
      rw [hzero rounded, abs_zero] at beyond
      exact absurd beyond (not_le.2 (by positivity))

/-- Whole numbers below the bound of mantissas are their own doubles. -/
theorem isDouble_natCast {n : ℕ} (h : n < 2 ^ 53) : IsDouble n (some (n : ℚ)) := by
  have hbinary : IsBinary ((n : ℤ) : ℚ) := isBinary_intCast (by rw [Nat.abs_cast]; exact_mod_cast h)
  rw [Int.cast_natCast] at hbinary
  refine hbinary.isDouble ?_
  rw [Nat.abs_cast]
  exact_mod_cast h.trans (Nat.pow_lt_pow_right Nat.one_lt_two (by decide))

/-! ## The unit of the last place -/

/-- At this exponent a positive number has a mantissa of 53 bits, unless the exponent is the least one. -/
structure HasUnit (x : ℚ) (e : ℤ) : Prop where
  least_le : -1074 ≤ e
  lt : x < 2 ^ (e + 53)
  le : e ≠ -1074 → 2 ^ (e + 52) ≤ x

/-- A multiple of the unit that no other one is nearer than, and that is even if another one is as near. -/
structure IsNearestMultiple (x : ℚ) (e m : ℤ) : Prop where
  nearest (k : ℤ) : |x - m * 2 ^ e| ≤ |x - k * 2 ^ e|
  even (k : ℤ) : k ≠ m → |x - k * 2 ^ e| = |x - m * 2 ^ e| → Even m

section Unit

variable {x : ℚ} {e m : ℤ}

/-- A multiple of the unit that is below the number has no more units than the nearest one. -/
theorem IsNearestMultiple.le_of_mul_le (h : IsNearestMultiple x e m) {k : ℤ} (hk : (k : ℚ) * 2 ^ e ≤ x) : k ≤ m := by
  by_contra hlt
  have hnear := h.nearest k
  have hstep : (m : ℚ) * 2 ^ e < k * 2 ^ e :=
    mul_lt_mul_of_pos_right (Int.cast_lt.2 (not_le.1 hlt)) (two_zpow_pos e)
  rw [abs_of_nonneg (by linarith), abs_of_nonneg (by linarith)] at hnear
  linarith

/-- A multiple of the unit that is above the number has no fewer units than the nearest one. -/
theorem IsNearestMultiple.le_of_le_mul (h : IsNearestMultiple x e m) {k : ℤ} (hk : x ≤ k * 2 ^ e) : m ≤ k := by
  by_contra hlt
  have hnear := h.nearest k
  have hstep : (k : ℚ) * 2 ^ e < m * 2 ^ e :=
    mul_lt_mul_of_pos_right (Int.cast_lt.2 (not_le.1 hlt)) (two_zpow_pos e)
  rw [abs_of_nonpos (by linarith), abs_of_nonpos (by linarith)] at hnear
  linarith

/-- A binary number is a multiple of the unit, or it is below the numbers that have this unit. -/
theorem HasUnit.eq_mul_or_lt (hunit : HasUnit x e) {z : ℚ} (hz : IsBinary z) :
    (∃ k : ℤ, z = k * 2 ^ e) ∨ z < 2 ^ (e + 52) ∧ (2 : ℚ) ^ (e + 52) ≤ x := by
  obtain ⟨k, f, hk, hf, rfl⟩ := hz
  rcases le_or_gt e f with hle | hlt
  · exact .inl ⟨_, mul_zpow_of_le k hle⟩
  · have hbelow : (k : ℚ) * 2 ^ f < 2 ^ (f + 53) := (mul_zpow_lt_iff k 53 f).2 (abs_lt.1 hk).2
    exact .inr ⟨hbelow.trans_le (zpow_le_zpow_right₀ one_le_two (by omega)), hunit.le (by omega)⟩

/-- A binary number that is no multiple of the unit is less near than one that is. -/
theorem HasUnit.exists_nearer (hunit : HasUnit x e) {z : ℚ} (hz : IsBinary z) :
    ∃ k : ℤ, z = k * 2 ^ e ∨ |x - k * 2 ^ e| < |x - z| := by
  rcases hunit.eq_mul_or_lt hz with ⟨k, rfl⟩ | ⟨hlt, hle⟩
  · exact ⟨k, .inl rfl⟩
  · refine ⟨2 ^ 52, .inr ?_⟩
    have hpow : ((2 ^ 52 : ℤ) : ℚ) * 2 ^ e = 2 ^ (e + 52) := two_pow_mul_zpow 52 e
    rw [hpow, abs_of_nonneg (by linarith), abs_of_nonneg (by linarith)]
    linarith

/-- A number is rounded to the nearest multiple of its unit. -/
theorem IsNearestMultiple.isRounded (h : IsNearestMultiple x e m) (hunit : HasUnit x e) (hx : 0 ≤ x) :
    IsRounded x (m * 2 ^ e) := by
  have hnonneg : 0 ≤ m := h.le_of_mul_le (by rwa [Int.cast_zero, zero_mul])
  have hbound : m ≤ 2 ^ 53 := h.le_of_le_mul (two_pow_mul_zpow 53 e ▸ hunit.lt.le)
  refine ⟨isBinary_mul_zpow hnonneg hbound hunit.least_le, fun z hz => ?_, fun z hz hne htie => ?_⟩
  · obtain ⟨k, rfl | hnearer⟩ := hunit.exists_nearer hz
    · exact h.nearest k
    · exact (h.nearest k).trans hnearer.le
  · obtain ⟨k, rfl | hnearer⟩ := hunit.exists_nearer hz
    · exact isEven_mul_zpow hnonneg hbound hunit.least_le (h.even k (fun heq => hne (heq ▸ rfl)) htie)
    · exact absurd (h.nearest k) (not_le.2 (htie ▸ hnearer))

/-- Above the least unit the nearest multiple keeps a mantissa of 53 bits. -/
theorem IsNearestMultiple.le_of_hasUnit (h : IsNearestMultiple x e m) (hunit : HasUnit x e) (he : e ≠ -1074) :
    2 ^ 52 ≤ m :=
  h.le_of_mul_le (two_pow_mul_zpow 52 e ▸ hunit.le he)

/-- A number with a mantissa of 53 bits is too great for the format exactly if its unit is. -/
theorem pow_le_mul_zpow_iff (hm : m < 2 ^ 53) (hnormal : e ≠ -1074 → 2 ^ 52 ≤ m) :
    (2 : ℚ) ^ 1024 ≤ m * 2 ^ e ↔ 971 < e := by
  have hgreat : (2 : ℚ) ^ 1024 = 2 ^ (1024 : ℤ) := (zpow_natCast 2 1024).symm
  rw [hgreat]
  constructor
  · intro hle
    have hlt : (2 : ℚ) ^ (1024 : ℤ) < 2 ^ (e + 53) := hle.trans_lt ((mul_zpow_lt_iff m 53 e).2 hm)
    have hexponent := (zpow_lt_zpow_iff_right₀ (one_lt_two : (1 : ℚ) < 2)).1 hlt
    omega
  · intro hlt
    have hle : (2 : ℚ) ^ (1024 : ℤ) ≤ 2 ^ (e + 52) := zpow_le_zpow_right₀ one_le_two (by omega)
    exact hle.trans ((zpow_le_mul_zpow_iff m 52 e).2 (hnormal (by omega)))

end Unit

end QueryGate.Number
