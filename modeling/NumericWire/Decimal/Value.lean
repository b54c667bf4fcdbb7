import Mathlib
import NumericWire.Decimal
/-!
# NumericWire.Decimal.Value

**The value of a decimal**, a rational number. It forgets what tells equal decimals apart:
the exponent of `1.10` and `1.1`, and the sign of a zero.

* `value_eq_unscaled` — the value as an integer over a power of ten, the form from which
  wire digits are taken.
* `value_eq_zero_iff` — the decimals of value zero are the zeros.
-/

namespace NumericWire

namespace Sign

/-- The sign as a factor. -/
theorem apply_eq_mul (s : Sign) (n : Nat) : s.apply n = s.apply 1 * n := by
  cases s <;> simp

@[simp] theorem apply_flip (s : Sign) (n : Nat) : s.flip.apply n = -s.apply n := by
  cases s <;> simp [flip]

/-- No magnitude but zero is lost under a sign. -/
@[simp] theorem apply_eq_zero_iff (s : Sign) (n : Nat) : s.apply n = 0 ↔ n = 0 := by
  cases s <;> simp

theorem apply_one_injective {s t : Sign} (h : s.apply 1 = t.apply 1) : s = t := by
  cases s <;> cases t <;> simp at h ⊢

end Sign

namespace Decimal

/-- The rational number that a decimal stands for. -/
def value (x : Decimal) : ℚ := x.sign.apply x.coefficient * 10 ^ x.exponent

@[simp] theorem value_negate (x : Decimal) : x.negate.value = -x.value := by
  simp [value, negate]

@[simp] theorem value_ofInt (n : Int) : (ofInt n).value = n := by
  simp [value, ofInt, Sign.apply_ofInt_natAbs]

/-- A decimal of value zero is a zero, of either sign and any exponent. -/
theorem value_eq_zero_iff (x : Decimal) : x.value = 0 ↔ x.IsZero := by
  have hpow : (10 : ℚ) ^ x.exponent ≠ 0 := by positivity
  simp [value, IsZero, hpow]

/-- The magnitude of the value. -/
theorem abs_value (x : Decimal) : |x.value| = x.coefficient * 10 ^ x.exponent := by
  have hpow : (0 : ℚ) < 10 ^ x.exponent := by positivity
  rw [value, abs_mul, abs_of_pos hpow]
  cases x.sign <;> simp

theorem value_eq_sign_mul_abs (x : Decimal) : x.value = x.sign.apply 1 * |x.value| := by
  rw [abs_value, value, Sign.apply_eq_mul]
  push_cast
  ring

/-- Only a zero has the value of a decimal of the other sign. -/
theorem sign_eq_of_value_eq {x y : Decimal} (hx : ¬ x.IsZero) (h : x.value = y.value) :
    x.sign = y.sign := by
  have habs : 0 < |y.value| := by
    rw [abs_pos, ← h]
    exact fun hzero => hx ((value_eq_zero_iff x).mp hzero)
  have hsigns := value_eq_sign_mul_abs x
  rw [h] at hsigns
  conv at hsigns => lhs; rw [value_eq_sign_mul_abs y]
  have happly := mul_right_cancel₀ habs.ne' hsigns
  exact (Sign.apply_one_injective (by exact_mod_cast happly)).symm

/-- Of the exponent, the positive part is in the integer and the negative one in the
power of ten under it. -/
theorem value_eq_unscaled (x : Decimal) :
    x.value = x.sign.apply x.unscaled / 10 ^ x.scale := by
  have hsplit : x.exponent = (x.exponent.toNat : Int) - (x.scale : Int) := by
    simp only [scale]
    omega
  have hpow : (10 : ℚ) ^ x.exponent = 10 ^ x.exponent.toNat / 10 ^ x.scale := by
    conv_lhs => rw [hsplit]
    rw [zpow_sub₀ (by norm_num), zpow_natCast, zpow_natCast]
  rw [value, hpow, Sign.apply_eq_mul, Sign.apply_eq_mul _ x.unscaled, unscaled]
  push_cast
  ring

theorem abs_value_eq_unscaled (x : Decimal) : |x.value| = x.unscaled / 10 ^ x.scale := by
  have hpow : (0 : ℚ) < 10 ^ x.scale := by positivity
  rw [value_eq_unscaled, abs_div, abs_of_pos hpow]
  cases x.sign <;> simp

end Decimal

end NumericWire
