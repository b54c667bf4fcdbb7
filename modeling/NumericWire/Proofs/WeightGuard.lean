import NumericWire.Proofs.FrameOfDecimal
/-!
# NumericWire.Proofs.WeightGuard

**The check of the leading weight comes first and says all.** Only a decimal that passes it is
scaled to an integer, and then the power of ten is bounded (`exponent_le`): however large an
exponent is, no large integer is formed for it. Of a decimal that passes the check of its scale as
well, the aligned integer has one digit for each place from the leading one to the last of those
behind the point (`length_digits_aligned`), so the weight that is counted from the digits is the
one that was checked, and the number of digits is bounded by the limits of the wire header.

The checks are spoken of by their outcomes: a decimal passes one unless the conversion reports it.
-/

namespace NumericWire

open Base10000

namespace Decimal

variable {x : Decimal}

/-- The exponent cannot exceed the place of the leading decimal digit. -/
theorem exponent_le (h : x.leadingWeight ≤ Numeric.maxWeight) : x.exponent ≤ 131071 := by
  have hpos := Numeral.length_pos x.coefficient
  simp only [leadingWeight, adjusted, digitCount, decimalsPerDigit, Numeric.maxWeight] at h
  omega

/-- **How many digits the aligned integer has**: those from the leading place down to the point,
and those behind it with the one of padding. -/
theorem length_digits_aligned (hx : ¬ x.IsZero) :
    ((digits x.aligned).length : ℤ) = x.order + (x.scale / 4 : ℕ) + 2 := by
  have hweight := weight_aligned hx
  rw [leadingWeight_eq_order, fractionDigits, decimalsPerDigit] at hweight
  omega

/-- The limits of the wire header bound the number of digits. -/
theorem length_digits_aligned_le (hx : ¬ x.IsZero) (hweight : x.leadingWeight ≤ Numeric.maxWeight)
    (hscale : x.scale ≤ Numeric.maxScale) : (digits x.aligned).length ≤ 49152 := by
  have hlength := length_digits_aligned hx
  rw [leadingWeight_eq_order] at hweight
  simp only [Numeric.maxWeight, Numeric.maxScale] at hweight hscale
  omega

end Decimal

namespace Numeric

variable {settings : Settings} {x : Decimal}

/-- What is left of the digits reaches the point, and there is at least one. -/
theorem le_length_trimFraction {weight : ℤ} {ds : List ℕ} (hreach : weight + 1 ≤ ds.length)
    (hlead : HasLead ds) : max (weight + 1) 1 ≤ ((trimFraction weight ds).length : ℤ) := by
  have hwhole := (isTrimmed_trimFraction hreach).reach
  have hpos : 0 < (trimFraction weight ds).length :=
    List.length_pos_iff.mpr (hasLead_trimFraction hlead).ne_nil
  omega

/-- The check of the weight passes just the leading weights in range. -/
theorem passes_weight_iff (hx : ¬ x.IsZero) :
    (∀ weight, ofDecimal settings x ≠ .error (.outOfRange (.weight weight))) ↔
      minWeight ≤ x.leadingWeight ∧ x.leadingWeight ≤ maxWeight := by
  constructor
  · intro hpasses
    by_contra hweight
    exact hpasses _ (ofDecimal_of_weight hx hweight)
  · intro hweight weight herror
    by_cases hscale : x.scale ≤ settings.maxScale
    · rw [ofDecimal_of_fits hx hweight hscale] at herror
      simp at herror
    · rw [ofDecimal_of_scale hx hweight (not_le.mp hscale)] at herror
      simp at herror

/-- Behind it, that of the scale passes just the scales that the settings allow. -/
theorem passes_scale_iff (hx : ¬ x.IsZero)
    (hweight : minWeight ≤ x.leadingWeight ∧ x.leadingWeight ≤ maxWeight) :
    (∀ scale limit, ofDecimal settings x ≠ .error (.outOfRange (.scale scale limit))) ↔
      x.scale ≤ settings.maxScale := by
  constructor
  · intro hpasses
    by_contra hscale
    exact hpasses _ _ (ofDecimal_of_scale hx hweight (not_le.mp hscale))
  · intro hscale scale limit herror
    rw [ofDecimal_of_fits hx hweight hscale] at herror
    simp at herror

/-- **The check of the leading weight bounds the work and predicts the weight.** -/
theorem ofDecimal_guarded (settings : Settings) (x : Decimal) (hx : ¬ x.IsZero)
    (hweight : ∀ weight, ofDecimal settings x ≠ .error (.outOfRange (.weight weight))) :
    -- The magnitude is multiplied out by a power of ten within bounds.
    x.unscaled = x.coefficient * 10 ^ x.exponent.toNat ∧ x.exponent.toNat ≤ 131071 ∧
    ((∀ scale limit, ofDecimal settings x ≠ .error (.outOfRange (.scale scale limit))) →
      -- Padding moves the point behind a whole number of digits.
      (x.aligned : ℚ) = |x.value| * 10000 ^ (x.scale / 4 + 1) ∧
      -- How many digits there are before any is dropped, and the weight counted from them.
      ((digits x.aligned).length : ℤ) = x.order + (x.scale / 4 : ℕ) + 2 ∧
      (digits x.aligned).length ≤ 49152 ∧
      ((digits x.aligned).length : ℤ) - x.fractionDigits - 1 = x.order ∧
      -- This is the weight of the wire value, and of the digits those up to the point stay.
      ∃ n : Number, ofDecimal settings x = .ok (.number n) ∧ n.weight = x.order ∧
        n.digits = trimFraction x.order (digits x.aligned) ∧
        max (x.order + 1) 1 ≤ (n.digits.length : ℤ)) := by
  rw [passes_weight_iff hx] at hweight
  have hexponent := Decimal.exponent_le hweight.2
  refine ⟨rfl, by omega, ?_⟩
  intro hscale
  rw [passes_scale_iff hx hweight] at hscale
  have hlimit := hscale.trans settings.maxScale_le
  have horder := x.leadingWeight_eq_order
  have hlength := Decimal.length_digits_aligned hx
  have hbase : (10000 : ℚ) = base := by norm_num [base]
  refine ⟨?_, hlength, Decimal.length_digits_aligned_le hx hweight.2 hlimit, ?_,
    x.toNumber hweight hlimit, ofDecimal_of_fits hx hweight hscale, horder, ?_, ?_⟩
  · rw [hbase]
    exact Decimal.aligned_eq x
  · rw [Decimal.weight_aligned hx, horder]
  · rw [← horder]
    rfl
  · rw [← horder]
    exact le_length_trimFraction (by omega) (hasLead_digits (Decimal.aligned_ne_zero hx))

/-- The largest power of ten has as many digits as a weight allows, and one of padding; the finest
has one digit. -/
theorem ofDecimal_guarded_powers :
    (digits (⟨.positive, 1, 131071⟩ : Decimal).aligned).length = 32769 ∧
      (digits (⟨.positive, 1, -65535⟩ : Decimal).aligned).length = 1 := by
  have hlarge : ¬ (⟨.positive, 1, 131071⟩ : Decimal).IsZero := by decide
  have hsmall : ¬ (⟨.positive, 1, -65535⟩ : Decimal).IsZero := by decide
  obtain ⟨-, -, hlarge'⟩ := ofDecimal_guarded .default _ hlarge
    ((passes_weight_iff hlarge).mpr (by decide))
  obtain ⟨-, -, hsmall'⟩ := ofDecimal_guarded .default _ hsmall
    ((passes_weight_iff hsmall).mpr (by decide))
  obtain ⟨-, hlength, -⟩ := hlarge' ((passes_scale_iff hlarge (by decide)).mpr (by decide))
  obtain ⟨-, hlength', -⟩ := hsmall' ((passes_scale_iff hsmall (by decide)).mpr (by decide))
  have horder : (⟨.positive, 1, 131071⟩ : Decimal).order + (0 / 4 : ℕ) + 2 = 32769 := by decide
  have horder' : (⟨.positive, 1, -65535⟩ : Decimal).order + (65535 / 4 : ℕ) + 2 = 1 := by decide
  exact ⟨by exact_mod_cast hlength.trans horder, by exact_mod_cast hlength'.trans horder'⟩

end Numeric

end NumericWire
