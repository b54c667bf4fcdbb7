import NumericWire.Proofs.Canonical
/-!
# NumericWire.Proofs.Encoding

**Decimals become canonical wire values.** The leading weight of a decimal is computed from
its exponent and the length of its coefficient, the weight of the wire value from the number
of digits of the aligned integer. Both are the order of magnitude of the same value
(`leadingWeight_bounds`, `placeValue_digits_aligned`), so they agree (`weight_aligned`), and
what passes the check of the one passes the check of the other.

`ofDecimal_eq_ok_iff` says all that the conversion does where it succeeds: the leading weight
and the scale are not too large, and the result is the canonical form.
-/

namespace NumericWire

open Base10000

namespace Decimal

variable {x : Decimal}

/-! ### The leading weight -/

theorem adjusted_bounds (hx : ¬ x.IsZero) :
    (10 : ℚ) ^ x.adjusted ≤ |x.value| ∧ |x.value| < 10 ^ (x.adjusted + 1) := by
  have hpow : (0 : ℚ) < 10 ^ x.exponent := by positivity
  have hpos := Numeral.length_pos x.coefficient
  obtain ⟨hlow, hhigh⟩ := Numeral.pow_length_bounds hx
  have hadjusted : x.adjusted = (Numeral.length x.coefficient - 1 : ℕ) + x.exponent := by
    simp only [adjusted, digitCount]
    omega
  have hnext : x.adjusted + 1 = (Numeral.length x.coefficient : ℕ) + x.exponent := by
    simp only [adjusted, digitCount]
    omega
  rw [abs_value, hnext, hadjusted, zpow_add₀ (by norm_num), zpow_add₀ (by norm_num), zpow_natCast,
    zpow_natCast]
  constructor
  · exact mul_le_mul_of_nonneg_right (by exact_mod_cast hlow) hpow.le
  · exact mul_lt_mul_of_pos_right (by exact_mod_cast hhigh) hpow

/-- The leading weight is the order of magnitude in base 10000. -/
theorem leadingWeight_bounds (hx : ¬ x.IsZero) :
    (base : ℚ) ^ x.leadingWeight ≤ |x.value| ∧ |x.value| < (base : ℚ) ^ (x.leadingWeight + 1) := by
  obtain ⟨hlow, hhigh⟩ := adjusted_bounds hx
  have hten : (1 : ℚ) ≤ 10 := by norm_num
  rw [base_zpow_eq, base_zpow_eq]
  refine ⟨(zpow_le_zpow_right₀ hten ?_).trans hlow,
    hhigh.trans_le (zpow_le_zpow_right₀ hten ?_)⟩
  all_goals
    simp only [leadingWeight, decimalsPerDigit]
    omega

/-- **Digits with a lead that have the magnitude of a decimal start at its leading weight.** -/
theorem leadingWeight_eq {place : ℤ} {ds : List ℕ} (hx : ¬ x.IsZero) (hlead : HasLead ds)
    (hds : ∀ d ∈ ds, d < base) (h : placeValue place ds = |x.value|) :
    x.leadingWeight = place := by
  obtain ⟨hlow, hhigh⟩ := leadingWeight_bounds hx
  obtain ⟨hlow', hhigh'⟩ := hlead.bounds place hds
  rw [h] at hlow' hhigh'
  exact zpow_unique hlow hhigh hlow' hhigh'

/-- The leading weight is not too small where the scale is in range. -/
theorem minWeight_le_leadingWeight (h : x.scale ≤ Numeric.maxScale) :
    Numeric.minWeight ≤ x.leadingWeight := by
  have hpos := Numeral.length_pos x.coefficient
  simp only [leadingWeight, adjusted, digitCount, scale, Numeric.minWeight, Numeric.maxScale,
    decimalsPerDigit] at h ⊢
  omega

/-! ### The aligned integer -/

/-- Padding moves the point behind a whole number of base-10000 digits. -/
theorem aligned_eq (x : Decimal) :
    (x.aligned : ℚ) = |x.value| * (base : ℚ) ^ x.fractionDigits := by
  have hpow : (10 : ℚ) ^ x.scale ≠ 0 := by positivity
  have hplaces : 4 * x.fractionDigits = x.scale + (4 - x.scale % 4) := by
    simp only [fractionDigits, decimalsPerDigit]
    omega
  rw [abs_value_eq_unscaled, base_pow_eq, hplaces, pow_add, aligned]
  simp only [decimalsPerDigit]
  push_cast
  field_simp

theorem aligned_ne_zero (hx : ¬ x.IsZero) : x.aligned ≠ 0 := by
  have hvalue : |x.value| ≠ 0 := by
    rw [abs_ne_zero]
    exact fun h => hx ((value_eq_zero_iff x).mp h)
  have hcast : (x.aligned : ℚ) ≠ 0 := by
    rw [aligned_eq]
    exact mul_ne_zero hvalue (pow_ne_zero _ base_cast_ne_zero)
  exact_mod_cast hcast

theorem placeValue_digits_aligned (x : Decimal) :
    placeValue ((digits x.aligned).length - x.fractionDigits - 1) (digits x.aligned) =
      |x.value| := by
  have hplace : ((digits x.aligned).length : ℤ) - x.fractionDigits - 1 -
      (digits x.aligned).length + 1 = -x.fractionDigits := by omega
  have hpow : (base : ℚ) ^ x.fractionDigits ≠ 0 := pow_ne_zero _ base_cast_ne_zero
  rw [placeValue_eq, hplace, ofDigits_digits, aligned_eq, zpow_neg, zpow_natCast, mul_assoc,
    mul_inv_cancel₀ hpow, mul_one]

/-- **The weight from the number of digits is the leading weight.** -/
theorem weight_aligned (hx : ¬ x.IsZero) :
    ((digits x.aligned).length : ℤ) - x.fractionDigits - 1 = x.leadingWeight :=
  (leadingWeight_eq hx (hasLead_digits (aligned_ne_zero hx)) (digits_lt _)
    (placeValue_digits_aligned x)).symm

/-! ### The conversion -/

/-- The wire value of a decimal whose leading weight and scale are in range. -/
def toNumber (x : Decimal)
    (hweight : Numeric.minWeight ≤ x.leadingWeight ∧ x.leadingWeight ≤ Numeric.maxWeight)
    (hscale : x.scale ≤ Numeric.maxScale) : Numeric.Number :=
  ⟨x.sign, x.leadingWeight, x.scale, Numeric.trimFraction x.leadingWeight (digits x.aligned),
    hweight, hscale, fun d hd =>
      Nat.le_pred_of_lt (digits_lt _ d (Numeric.mem_of_mem_trimFraction hd))⟩

/-- **What a decimal is converted to is its canonical form.** -/
theorem isCanonicalFor_toNumber (hx : ¬ x.IsZero)
    (hweight : Numeric.minWeight ≤ x.leadingWeight ∧ x.leadingWeight ≤ Numeric.maxWeight)
    (hscale : x.scale ≤ Numeric.maxScale) :
    (x.toNumber hweight hscale).IsCanonicalFor x := by
  have hplace := weight_aligned hx
  have hreach : x.leadingWeight + 1 ≤ ((digits x.aligned).length : ℤ) := by omega
  exact
    { sign := Iff.rfl
      scale := by
        simp only [toNumber, scale]
        omega
      lead := Numeric.hasLead_trimFraction (hasLead_digits (aligned_ne_zero hx))
      value := by
        rw [← placeValue_eq_sum]
        simp only [toNumber, Numeric.placeValue_trimFraction]
        rw [← hplace, placeValue_digits_aligned]
      trimmed := Numeric.isTrimmed_trimFraction hreach }

end Decimal

/-- Whether neither the leading digit of a decimal nor its scale exceeds the limits. -/
def Settings.Accepts (settings : Settings) (x : Decimal) : Prop :=
  x.leadingWeight ≤ Numeric.maxWeight ∧ x.scale ≤ settings.maxScale

namespace Numeric

variable {settings : Settings} {x : Decimal} {q : Quantity} {w : Numeric}

theorem ofDecimal_of_isZero (hx : x.IsZero) : ofDecimal settings x = .ok zero := by
  rw [ofDecimal, if_pos hx]

theorem ofDecimal_of_weight (hx : ¬ x.IsZero)
    (hweight : ¬ (minWeight ≤ x.leadingWeight ∧ x.leadingWeight ≤ maxWeight)) :
    ofDecimal settings x = .error (.outOfRange (.weight x.leadingWeight)) := by
  rw [ofDecimal, if_neg hx, if_pos hweight]

theorem ofDecimal_of_scale (hx : ¬ x.IsZero)
    (hweight : minWeight ≤ x.leadingWeight ∧ x.leadingWeight ≤ maxWeight)
    (hscale : settings.maxScale < x.scale) :
    ofDecimal settings x = .error (.outOfRange (.scale x.scale settings.maxScale)) := by
  rw [ofDecimal, if_neg hx, if_neg (not_not.mpr hweight), if_pos hscale]

/-- Within the limits the parts are never refused: the weight that is checked with them is
the leading weight. -/
theorem ofDecimal_of_fits (hx : ¬ x.IsZero)
    (hweight : minWeight ≤ x.leadingWeight ∧ x.leadingWeight ≤ maxWeight)
    (hscale : x.scale ≤ settings.maxScale) :
    ofDecimal settings x =
      .ok (.number (x.toNumber hweight (hscale.trans settings.maxScale_le))) := by
  rw [ofDecimal, if_neg hx, if_neg (not_not.mpr hweight), if_neg (Nat.not_lt.mpr hscale)]
  -- The parts carry the weight from the number of digits, and it is the one already checked.
  simp only [Decimal.weight_aligned hx]
  exact ofParts_number (x.toNumber hweight (hscale.trans settings.maxScale_le))

/-- The error of a decimal beyond the limits: the weight is looked at before the scale. -/
theorem ofDecimal_of_not_accepts (hx : ¬ x.IsZero) (h : ¬ settings.Accepts x) :
    ofDecimal settings x = .error (.outOfRange
      (if minWeight ≤ x.leadingWeight ∧ x.leadingWeight ≤ maxWeight then
        .scale x.scale settings.maxScale
      else .weight x.leadingWeight)) := by
  by_cases hweight : minWeight ≤ x.leadingWeight ∧ x.leadingWeight ≤ maxWeight
  · have hscale : settings.maxScale < x.scale :=
      Nat.lt_of_not_le fun hscale => h ⟨hweight.2, hscale⟩
    rw [ofDecimal_of_scale hx hweight hscale, if_pos hweight]
  · rw [ofDecimal_of_weight hx hweight, if_neg hweight]

/-- An accepted decimal has a canonical form, and is converted to it. -/
theorem ofDecimal_of_accepts (hx : ¬ x.IsZero) (h : settings.Accepts x) :
    ∃ n : Number, ofDecimal settings x = .ok (.number n) ∧ n.IsCanonicalFor x := by
  have hlimit := h.2.trans settings.maxScale_le
  have hweight := And.intro (Decimal.minWeight_le_leadingWeight hlimit) h.1
  exact ⟨_, ofDecimal_of_fits hx hweight h.2, Decimal.isCanonicalFor_toNumber hx hweight hlimit⟩

/-- **The conversion, where it succeeds.** -/
theorem ofDecimal_eq_ok_iff (hx : ¬ x.IsZero) {w : Numeric} :
    ofDecimal settings x = .ok w ↔ settings.Accepts x ∧ w.IsCanonicalFor x := by
  constructor
  · intro h
    by_cases haccepts : settings.Accepts x
    · obtain ⟨n, hn, hcanon⟩ := ofDecimal_of_accepts hx haccepts
      rw [hn] at h
      obtain rfl := Except.ok.inj h
      exact ⟨haccepts, hcanon⟩
    · rw [ofDecimal_of_not_accepts hx haccepts] at h
      simp at h
  · rintro ⟨haccepts, hw⟩
    obtain ⟨n, hn, hcanon⟩ := ofDecimal_of_accepts hx haccepts
    have heq : number n = w := IsCanonicalFor.eq hcanon hw
    rw [hn, heq]

/-- What is accepted: not-a-number, a zero, or a decimal that has a canonical form. -/
theorem ofQuantity_cases (h : ofQuantity settings q = .ok w) :
    (∃ signaling, q = .nan signaling ∧ w = .nan) ∨ (∃ x, q = .finite x ∧ x.IsZero ∧ w = zero) ∨
      ∃ x n, q = .finite x ∧ ¬ x.IsZero ∧ w = .number n ∧ n.IsCanonicalFor x := by
  cases q with
  | infinity sign => simp [ofQuantity] at h
  | nan signaling =>
      simp only [ofQuantity] at h
      split at h
      · exact .inl ⟨signaling, rfl, (Except.ok.inj h).symm⟩
      · simp at h
  | finite x =>
      simp only [ofQuantity] at h
      by_cases hx : x.IsZero
      · rw [ofDecimal_of_isZero hx] at h
        exact .inr (.inl ⟨x, rfl, hx, (Except.ok.inj h).symm⟩)
      · obtain ⟨-, hw⟩ := (ofDecimal_eq_ok_iff hx).mp h
        cases w with
        | nan => exact hw.elim
        | number n => exact .inr (.inr ⟨x, n, rfl, hx, rfl, hw⟩)

/-- **Decimals become their canonical forms.** A wire value is canonical for a decimal just if
it is the one that the decimal is converted to, and every zero is converted to the same one. -/
theorem ofQuantity_canonical (settings : Settings) :
    (∀ (x : Decimal) (w : Numeric), ¬ x.IsZero → ofQuantity settings (.finite x) = .ok w →
      ∀ u : Numeric, u.IsCanonicalFor x ↔ u = w) ∧
    (∀ x : Decimal, x.IsZero → ofQuantity settings (.finite x) = .ok zero) ∧
    ofQuantity settings (.finite (.ofInt 0)) = .ok zero := by
  refine ⟨?_, fun x hx => ofDecimal_of_isZero hx, ofDecimal_of_isZero rfl⟩
  intro x w hx h u
  obtain ⟨-, hw⟩ := (ofDecimal_eq_ok_iff hx).mp h
  constructor
  · intro hu
    exact hu.eq hw
  · rintro rfl
    exact hw

/-- The decimal `1000000.0001000`: the zero digit in front of the point stays, the digit of
padding goes. -/
theorem ofQuantity_canonical_million :
    ∀ u : Numeric, u.IsCanonicalFor ⟨.positive, 10000000001000, -7⟩ ↔
      u = .number ⟨.positive, 1, 7, [100, 0, 1], by decide, by decide, by decide⟩ :=
  (ofQuantity_canonical .default).1 _ _ (by decide) rfl

end Numeric

end NumericWire
