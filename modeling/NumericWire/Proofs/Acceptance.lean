import NumericWire.Base10000.Reader
import NumericWire.Proofs.Encoding
/-!
# NumericWire.Proofs.Acceptance

**Which values become wire values.** Of the finite decimals only those are refused whose
leading digit lies too high for a weight, or that have more decimal places than the settings
allow (`Decimal.Exceeds`). A weight may be too small as well, but a decimal that small has too
many decimal places for any settings, so this decides the message alone.

The settings are a gate and nothing else: they never change what an accepted value becomes.
-/

namespace NumericWire

open Base10000

/-- Whether a decimal other than zero is too large, or too finely divided, to be accepted. -/
def Decimal.Exceeds (x : Decimal) (maxScale : ℕ) : Prop :=
  32767 < ((Nat.toDigits 10 x.coefficient).length + x.exponent - 1) / 4 ∨
    (maxScale : ℤ) < max 0 (-x.exponent)

theorem Settings.accepts_iff (settings : Settings) (x : Decimal) :
    settings.Accepts x ↔ ¬ x.Exceeds settings.maxScale := by
  have hadjusted : x.adjusted = (Nat.toDigits 10 x.coefficient).length + x.exponent - 1 := by
    rw [Decimal.adjusted, Decimal.digitCount, Numeral.length_eq]
    omega
  simp only [Accepts, Decimal.Exceeds, Decimal.leadingWeight, Decimal.scale, hadjusted,
    decimalsPerDigit, Numeric.maxWeight, not_or]
  omega

namespace Numeric

variable {settings settings' : Settings} {q : Quantity} {w w' : Numeric}

/-- Only a value without a counterpart and a decimal beyond the limits are refused: no part of
a wire value is found at fault, and no integer without digits comes up. -/
theorem ofQuantity_fault {fault : Fault} (h : ofQuantity settings q = .error fault) :
    (∃ cause, fault = .unsupported cause) ∨ ∃ excess, fault = .outOfRange excess := by
  cases q with
  | infinity sign => exact Or.inl ⟨_, (Except.error.inj h).symm⟩
  | nan signaling =>
      simp only [ofQuantity] at h
      split at h
      · simp at h
      · exact Or.inl ⟨_, (Except.error.inj h).symm⟩
  | finite x =>
      simp only [ofQuantity] at h
      by_cases hx : x.IsZero
      · rw [ofDecimal_of_isZero hx] at h
        simp at h
      · by_cases haccepts : settings.Accepts x
        · obtain ⟨n, hn, -⟩ := ofDecimal_of_accepts hx haccepts
          rw [hn] at h
          simp at h
        · rw [ofDecimal_of_not_accepts hx haccepts] at h
          exact Or.inr ⟨_, (Except.error.inj h).symm⟩

/-- What an accepted value becomes does not depend on the settings. -/
theorem ofQuantity_unique (h : ofQuantity settings q = .ok w)
    (h' : ofQuantity settings' q = .ok w') : w = w' := by
  cases q with
  | infinity sign => simp [ofQuantity] at h
  | nan signaling =>
      simp only [ofQuantity] at h h'
      split at h
      · split at h'
        · rw [← Except.ok.inj h, ← Except.ok.inj h']
        · simp at h'
      · simp at h
  | finite x =>
      simp only [ofQuantity] at h h'
      by_cases hx : x.IsZero
      · rw [ofDecimal_of_isZero hx] at h h'
        rw [← Except.ok.inj h, ← Except.ok.inj h']
      · obtain ⟨-, hw⟩ := (ofDecimal_eq_ok_iff hx).mp h
        obtain ⟨-, hw'⟩ := (ofDecimal_eq_ok_iff hx).mp h'
        exact hw.eq hw'

/-- More permissive settings accept what others do. -/
theorem ofQuantity_mono (hscale : settings.maxScale ≤ settings'.maxScale)
    (hnan : settings.encodeNan → settings'.encodeNan) (h : ofQuantity settings q = .ok w) :
    ofQuantity settings' q = .ok w := by
  cases q with
  | infinity sign => simp [ofQuantity] at h
  | nan signaling =>
      simp only [ofQuantity] at h ⊢
      split at h
      · rename_i hencode
        rw [if_pos (hnan hencode), h]
      · simp at h
  | finite x =>
      simp only [ofQuantity] at h ⊢
      by_cases hx : x.IsZero
      · rw [ofDecimal_of_isZero hx] at h ⊢
        exact h
      · obtain ⟨haccepts, hw⟩ := (ofDecimal_eq_ok_iff hx).mp h
        exact (ofDecimal_eq_ok_iff hx).mpr ⟨⟨haccepts.1, haccepts.2.trans hscale⟩, hw⟩

/-- **What is accepted, and what is said of the rest.** -/
theorem ofQuantity_acceptance (settings : Settings) :
    -- An infinity is never accepted, and not-a-number if the settings say so.
    (∀ sign, ofQuantity settings (.infinity sign) = .error (.unsupported (.infinity sign))) ∧
    (∀ signaling, ofQuantity settings (.nan signaling) =
      if settings.encodeNan then .ok .nan else .error (.unsupported .nanDisabled)) ∧
    -- A zero always is, and another decimal unless it exceeds the limits.
    (∀ x : Decimal, x.IsZero → ofQuantity settings (.finite x) = .ok zero) ∧
    (∀ x : Decimal, ¬ x.IsZero → x.Exceeds settings.maxScale →
      ofQuantity settings (.finite x) = .error (.outOfRange
        (if minWeight ≤ x.leadingWeight ∧ x.leadingWeight ≤ maxWeight then
          .scale x.scale settings.maxScale
        else .weight x.leadingWeight))) ∧
    (∀ x : Decimal, ¬ x.IsZero → ¬ x.Exceeds settings.maxScale →
      ∃ w, ofQuantity settings (.finite x) = .ok w) ∧
    -- There is no other fault, and the integer that is split has digits in range.
    (∀ q fault, ofQuantity settings q = .error fault →
      (∃ cause, fault = .unsupported cause) ∨ ∃ excess, fault = .outOfRange excess) ∧
    (∀ x : Decimal, (Reader.ofInt x.aligned).drain.1 = .ok (digits x.aligned).reverse ∧
      ∀ d ∈ digits x.aligned, d ≤ maxDigit) ∧
    -- The settings are a gate.
    (∀ settings' q w w', ofQuantity settings q = .ok w → ofQuantity settings' q = .ok w' →
      w = w') ∧
    (∀ settings' q w, settings.maxScale ≤ settings'.maxScale →
      (settings.encodeNan → settings'.encodeNan) → ofQuantity settings q = .ok w →
      ofQuantity settings' q = .ok w) := by
  refine ⟨fun _ => rfl, fun _ => rfl, fun _ hx => ofDecimal_of_isZero hx, ?_, ?_,
    fun _ _ h => ofQuantity_fault h, ?_, fun _ _ _ _ h h' => ofQuantity_unique h h',
    fun _ _ _ hscale hnan h => ofQuantity_mono hscale hnan h⟩
  · intro x hx hexceeds
    refine ofDecimal_of_not_accepts hx ?_
    rw [settings.accepts_iff, not_not]
    exact hexceeds
  · intro x hx hexceeds
    obtain ⟨n, hn, -⟩ := ofDecimal_of_accepts hx ((settings.accepts_iff x).mpr hexceeds)
    exact ⟨_, hn⟩
  · intro x
    refine ⟨?_, fun d hd => Nat.le_pred_of_lt (digits_lt _ d hd)⟩
    have hnonneg : ¬ (x.aligned : ℤ) < 0 := by omega
    rw [Reader.ofInt, if_neg hnonneg, Int.toNat_natCast]
    rfl

/-- The largest exponent of a four-digit coefficient, and the next one. -/
theorem ofQuantity_acceptance_limit :
    (∃ w, ofQuantity .default (.finite ⟨.positive, 9999, 131068⟩) = .ok w) ∧
    ofQuantity .default (.finite ⟨.positive, 9999, 131069⟩) =
      .error (.outOfRange (.weight 32768)) := by
  obtain ⟨-, -, -, hrefused, haccepted, -⟩ := ofQuantity_acceptance .default
  constructor
  · refine haccepted ⟨.positive, 9999, 131068⟩ (by decide) ?_
    unfold Decimal.Exceeds
    decide
  · refine (hrefused ⟨.positive, 9999, 131069⟩ (by decide) ?_).trans (by rfl)
    unfold Decimal.Exceeds
    decide

end Numeric

end NumericWire
