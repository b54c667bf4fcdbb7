import NumericWire.Proofs.Encoding
/-!
# NumericWire.Proofs.RoundTrip

**There and back.** A decimal that has become a wire value comes back with its exact value, and
in a form that the value alone determines (`Decimal.IsAlignedFor`): the exponent is minus four
times the number of base-10000 digits that are needed behind the point. The exponent that the
decimal had, the zeros at the end of its coefficient and the sign of a zero are forgotten.
-/

namespace NumericWire

open Base10000

namespace Decimal

variable {x y : Decimal} {v : ℚ}

/-! ### The aligned decimal of a value -/

/-- Whether a decimal has a given value, and of all decimals of that value is the one that ends
with the last base-10000 digit behind the point that is needed. -/
structure IsAlignedFor (y : Decimal) (v : ℚ) : Prop where
  value : y.value = v
  /-- Zero is not negative. -/
  sign : v = 0 → y.sign = .positive
  exponent : ∃ k : ℕ, IsLeast (places v) k ∧ y.exponent = -(4 * k)

/-- The coefficient is the magnitude, moved up by the exponent. -/
theorem IsAlignedFor.coefficient_eq (h : y.IsAlignedFor v) {k : ℕ} (hk : y.exponent = -(4 * k)) :
    (y.coefficient : ℚ) = |v| * 10 ^ (4 * k) := by
  have hexp : y.exponent = -((4 * k : ℕ) : ℤ) := by omega
  have hpow : (10 : ℚ) ^ (4 * k) ≠ 0 := by positivity
  rw [← h.value, abs_value, hexp, zpow_neg, zpow_natCast, mul_assoc, inv_mul_cancel₀ hpow, mul_one]

/-- **A value has at most one aligned decimal.** -/
theorem IsAlignedFor.unique (hx : x.IsAlignedFor v) (hy : y.IsAlignedFor v) : x = y := by
  obtain ⟨k, hk, hxe⟩ := hx.exponent
  obtain ⟨j, hj, hye⟩ := hy.exponent
  obtain rfl := hk.unique hj
  have hcoefficient : (x.coefficient : ℚ) = y.coefficient := by
    rw [hx.coefficient_eq hxe, hy.coefficient_eq hye]
  have hcoefficient : x.coefficient = y.coefficient := by exact_mod_cast hcoefficient
  have hsign : x.sign = y.sign := by
    by_cases hv : v = 0
    · rw [hx.sign hv, hy.sign hv]
    · refine sign_eq_of_value_eq (fun hzero => hv ?_) (by rw [hx.value, hy.value])
      rw [← hx.value, value_eq_zero_iff]
      exact hzero
  cases x
  cases y
  simp_all

/-- The scale of a decimal bounds the places that its value needs. -/
theorem mem_places_of_scale_le {k : ℕ} (h : x.scale ≤ 4 * k) : k ∈ places x.value := by
  refine ⟨x.sign.apply x.unscaled * 10 ^ (4 * k - x.scale), ?_⟩
  have hsplit : (10 : ℚ) ^ (4 * k) = 10 ^ x.scale * 10 ^ (4 * k - x.scale) := by
    rw [← pow_add]
    congr 1
    omega
  have hpow : (10 : ℚ) ^ x.scale ≠ 0 := by positivity
  rw [value_eq_unscaled, hsplit]
  push_cast
  field_simp

/-- A value without decimal places has an aligned decimal of exponent 0. -/
theorem isLeast_places_zero (h : x.scale = 0) : IsLeast (places x.value) 0 :=
  ⟨mem_places_of_scale_le (by omega), fun _ _ => Nat.zero_le _⟩

theorem isAlignedFor_ofInt (n : ℤ) : (ofInt n).IsAlignedFor (ofInt n).value where
  value := rfl
  sign := fun hv => by
    have hn : n = 0 := by simpa using hv
    rw [hn]
    rfl
  exponent := ⟨0, isLeast_places_zero rfl, rfl⟩

end Decimal

namespace Numeric

open Decimal

variable {settings settings' : Settings} {x : Decimal} {w : Numeric}

/-! ### From decimals and back -/

theorem Number.IsCanonicalFor.isAlignedFor {n : Number} (h : n.IsCanonicalFor x)
    (hx : ¬ x.IsZero) : n.toDecimal.IsAlignedFor x.value where
  value := by
    have hsign : n.toDecimal.sign = x.sign := h.sign_eq
    rw [value_eq_sign_mul_abs, value_eq_sign_mul_abs x, n.abs_value_toDecimal, h.placeValue_eq,
      hsign]
  sign := fun hzero => absurd ((value_eq_zero_iff x).mp hzero) hx
  exponent := h.exponent_toDecimal

/-- The decimal that comes back is the aligned decimal of the value. -/
theorem exists_isAlignedFor (h : ofDecimal settings x = .ok w) :
    ∃ y, w.toDecimal = .ok y ∧ y.IsAlignedFor x.value := by
  by_cases hx : x.IsZero
  · rw [ofDecimal_of_isZero hx] at h
    obtain rfl := Except.ok.inj h
    refine ⟨ofInt 0, rfl, ?_⟩
    rw [(value_eq_zero_iff x).mpr hx]
    simpa using isAlignedFor_ofInt 0
  · obtain ⟨-, hw⟩ := (ofDecimal_eq_ok_iff hx).mp h
    cases w with
    | nan => exact hw.elim
    | number n => exact ⟨_, rfl, Number.IsCanonicalFor.isAlignedFor hw hx⟩

/-- **The round trip of a decimal is exact.** What comes back depends on the value alone; an
integer comes back as it was, and a positive exponent multiplied out. -/
theorem toDecimal_ofQuantity (settings : Settings) (x : Decimal) (w : Numeric)
    (h : ofQuantity settings (.finite x) = .ok w) :
    ∃ (k : ℕ) (y : Decimal), w.toDecimal = .ok y ∧
      y.value = x.value ∧ y.sign = (if x.IsZero then .positive else x.sign) ∧
      IsLeast {j : ℕ | ∃ m : ℤ, x.value * 10 ^ (4 * j) = m} k ∧
      y.exponent = -(4 * k) ∧ (y.coefficient : ℚ) = |x.value| * 10 ^ (4 * k) ∧
      (∀ settings' x' w', ofQuantity settings' (.finite x') = .ok w' → x'.value = x.value →
        w'.toDecimal = .ok y) ∧
      (∀ n : ℤ, x = .ofInt n → y = ⟨.ofInt n, n.natAbs, 0⟩) ∧
      (0 < x.exponent →
        y.exponent = 0 ∧ y.coefficient = x.coefficient * 10 ^ x.exponent.toNat) := by
  obtain ⟨y, hy, haligned⟩ := exists_isAlignedFor h
  obtain ⟨k, hk, hexponent⟩ := haligned.exponent
  have hcoefficient := haligned.coefficient_eq hexponent
  refine ⟨k, y, hy, haligned.value, ?_, hk, hexponent, hcoefficient, ?_, ?_, ?_⟩
  · split
    · rename_i hx
      exact haligned.sign ((value_eq_zero_iff x).mpr hx)
    · rename_i hx
      exact (sign_eq_of_value_eq hx haligned.value.symm).symm
  · intro settings' x' w' h' hvalue
    obtain ⟨y', hy', haligned'⟩ := exists_isAlignedFor h'
    rw [hvalue] at haligned'
    rw [hy', haligned'.unique haligned]
  · rintro n rfl
    exact haligned.unique (isAlignedFor_ofInt n)
  · intro hpos
    have hscale : x.scale = 0 := by
      simp only [scale]
      omega
    obtain rfl := hk.unique (isLeast_places_zero hscale)
    rw [abs_value_eq_unscaled, hscale] at hcoefficient
    refine ⟨hexponent, ?_⟩
    exact_mod_cast (by simpa using hcoefficient : (y.coefficient : ℚ) = x.unscaled)

/-- The decimal `-12.0012300` has two base-10000 digits behind the point. -/
theorem toDecimal_ofQuantity_twelve :
    toDecimal (.number ⟨.negative, 0, 7, [12, 12, 3000], by decide, by decide, by decide⟩) =
        .ok ⟨.negative, 1200123000, -8⟩ ∧
      IsLeast {j : ℕ | ∃ m : ℤ,
        (⟨.negative, 120012300, -7⟩ : Decimal).value * 10 ^ (4 * j) = m} 2 := by
  obtain ⟨k, y, hy, -, -, hk, hexponent, -⟩ :=
    toDecimal_ofQuantity .default ⟨.negative, 120012300, -7⟩ _ rfl
  obtain rfl : (⟨.negative, 1200123000, -8⟩ : Decimal) = y := Except.ok.inj hy
  obtain rfl : k = 2 := by
    simp only at hexponent
    omega
  exact ⟨rfl, hk⟩

end Numeric

end NumericWire
