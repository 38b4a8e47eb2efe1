import Mathlib.Algebra.Order.Field.Rat
import Mathlib.Algebra.Order.Floor.Div
import Mathlib.Algebra.Order.Floor.Semiring
import Mathlib.Data.Rat.Floor
import Mathlib.Tactic.NormNum
import Mathlib.Tactic.Positivity
import QueryGate.Number.Binary64
/-!
Binary numbers as rational numbers. A finite number is exactly one, and its fraction in whole numbers is the same one
without the sign.
-/
set_option autoImplicit false

namespace QueryGate.Number.Binary64

/-- The rational number that a finite number is; there is none for the others. -/
def toRat? : Binary64 → Option ℚ
  | nan => none
  | infinity _ => none
  | finite negative mantissa exponent => some ((if negative then -1 else 1) * (mantissa * 2 ^ exponent))

/-- The fraction of a finite number without its sign. -/
theorem ratio_eq (mantissa : ℕ) (exponent : ℤ) :
    ((ratio mantissa exponent).1 : ℚ) / (ratio mantissa exponent).2 = mantissa * 2 ^ exponent := by
  cases exponent with
  | ofNat k =>
      have hone : ((1 : ℕ) : ℚ) = 1 := Nat.cast_one
      rw [ratio, hone, div_one, Nat.cast_mul, Int.ofNat_eq_natCast, zpow_natCast]
      exact congrArg _ (Nat.cast_pow 2 k)
  | negSucc k =>
      rw [ratio, zpow_negSucc, div_eq_mul_inv]
      exact congrArg (fun power : ℚ => mantissa * power⁻¹) (Nat.cast_pow 2 (k + 1))

theorem ratio_pos {mantissa : ℕ} (h : mantissa ≠ 0) (exponent : ℤ) :
    0 < (ratio mantissa exponent).1 ∧ 0 < (ratio mantissa exponent).2 := by
  have hpow (k : ℕ) : 0 < Nat.pow 2 k := Nat.pow_pos Nat.two_pos
  cases exponent with
  | ofNat k => exact ⟨Nat.mul_pos (Nat.pos_of_ne_zero h) (hpow k), Nat.one_pos⟩
  | negSucc k => exact ⟨Nat.pos_of_ne_zero h, hpow (k + 1)⟩

/-- A finite number is positive if its sign says so and it is not zero. -/
theorem toRat_pos_iff (negative : Bool) (mantissa : ℕ) (exponent : ℤ) :
    0 < (if negative then -1 else 1 : ℚ) * (mantissa * 2 ^ exponent) ↔ ¬(negative = true ∨ mantissa = 0) := by
  have hpow : (0 : ℚ) < 2 ^ exponent := zpow_pos two_pos exponent
  have hnonneg : (0 : ℚ) ≤ mantissa * 2 ^ exponent := mul_nonneg mantissa.cast_nonneg hpow.le
  cases negative with
  | true => simp [hnonneg]
  | false => simp [hpow, Nat.pos_iff_ne_zero]

/-- A quotient of whole numbers, rounded up. -/
theorem ceil_div_natCast (num : ℕ) {den : ℕ} (h : 0 < den) : ⌈(num / den : ℚ)⌉₊ = (num + den - 1) / den := by
  rw [← Nat.ceilDiv_eq_add_pred_div]
  refine eq_of_forall_ge_iff fun n => ?_
  have hden : (0 : ℚ) < den := Nat.cast_pos.2 h
  rw [Nat.ceil_le, div_le_iff₀ hden, ← Nat.cast_mul, Nat.cast_le, ceilDiv_le_iff_le_mul h, Nat.mul_comm]

end QueryGate.Number.Binary64
