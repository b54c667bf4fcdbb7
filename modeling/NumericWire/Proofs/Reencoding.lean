import NumericWire.Proofs.RoundTrip
/-!
# NumericWire.Proofs.Reencoding

**Wire values that come from elsewhere**, sent through a decimal and back. They may start with
zeros, end in zeros, leave out digits in front of the point or have no digits at all. One pass
(`reencode`) brings weight and digits into canonical form and makes the scale a multiple of
four; whether it succeeds depends on the digits that were written behind the point, zeros
included. A second pass can still lower the scale, since zeros at the end are gone by then. A
third one changes nothing.

The new weight and digits are not computed from the padded integer that the conversion splits:
they have the value of the old ones and are trimmed, and there is only one such list of digits.
-/

namespace NumericWire

open Base10000

namespace Numeric

variable {settings : Settings}

/-- One pass through a decimal and back. -/
def reencode (settings : Settings) (w : Numeric) : Except Fault Numeric :=
  match w.toDecimal with
  | .ok x => ofQuantity settings (.finite x)
  | .error fault => .error fault

theorem reencode_number_eq (settings : Settings) (n : Number) :
    reencode settings (.number n) = ofDecimal settings n.toDecimal := rfl

namespace Number

/-- The digits behind the zeros in front, with those that are missing in front of the point
written out, or else without the zeros at the end of those behind the point. -/
def normalDigits (n : Number) : List ℕ :=
  let significant := n.digits.dropWhile (· == 0)
  let whole := (n.weight - leadingZeros n.digits + 1).toNat
  if (n.digits.length : ℤ) - 1 < n.weight then
    significant ++ List.replicate (n.weight - (n.digits.length - 1)).toNat 0
  else significant.take whole ++ (significant.drop whole).rdropWhile (· == 0)

variable {m n : Number}

/-! ### The digits after one pass -/

theorem isZero_toDecimal_iff (n : Number) : n.toDecimal.IsZero ↔ ∀ d ∈ n.digits, d = 0 :=
  ofDigits_eq_zero_iff

theorem not_isZero_toDecimal (hn : ∃ d ∈ n.digits, d ≠ 0) : ¬ n.toDecimal.IsZero := by
  obtain ⟨d, hd, hne⟩ := hn
  exact fun hzero => hne ((isZero_toDecimal_iff n).mp hzero d hd)

theorem significant_lt (n : Number) : ∀ d ∈ n.digits.dropWhile (· == 0), d < base :=
  fun d hd => n.digits_lt d ((List.dropWhile_sublist _).mem hd)

theorem placeValue_significant (n : Number) :
    placeValue (n.weight - leadingZeros n.digits) (n.digits.dropWhile (· == 0)) =
      |n.toDecimal.value| := by
  rw [placeValue_dropWhile, n.abs_value_toDecimal]

/-- Where no digit is missing they are trimmed as those of a decimal are. -/
theorem normalDigits_eq (n : Number) :
    n.normalDigits =
      if (n.digits.length : ℤ) - 1 < n.weight then
        n.digits.dropWhile (· == 0) ++
          List.replicate (n.weight - (n.digits.length - 1)).toNat 0
      else trimFraction (n.weight - leadingZeros n.digits) (n.digits.dropWhile (· == 0)) := rfl

theorem placeValue_normalDigits (n : Number) :
    placeValue (n.weight - leadingZeros n.digits) n.normalDigits = |n.toDecimal.value| := by
  rw [normalDigits_eq]
  split
  · rw [placeValue_append_zeros, placeValue_significant]
  · rw [placeValue_trimFraction, placeValue_significant]

theorem normalDigits_lt (n : Number) : ∀ d ∈ n.normalDigits, d < base := by
  intro d hd
  rw [normalDigits_eq] at hd
  split at hd
  · rcases List.mem_append.mp hd with hd | hd
    · exact n.significant_lt d hd
    · rw [List.eq_of_mem_replicate hd]
      decide
  · exact n.significant_lt d (mem_of_mem_trimFraction hd)

/-- The new digits reach the point, and none of them stands behind it that need not. -/
theorem isTrimmed_normalDigits (n : Number) :
    IsTrimmed (n.weight - leadingZeros n.digits) n.normalDigits := by
  have hlength := leadingZeros_add_length n.digits
  rw [normalDigits_eq]
  split
  · have hreach : ((n.digits.dropWhile (· == 0) ++
        List.replicate (n.weight - (n.digits.length - 1)).toNat 0).length : ℤ) =
          n.weight - leadingZeros n.digits + 1 := by
      rw [List.length_append, List.length_replicate]
      omega
    exact ⟨by omega, fun hlonger => by omega⟩
  · exact isTrimmed_trimFraction (by omega)

/-- **The parts of the canonical form of a decimal that comes from the wire.** -/
theorem IsCanonicalFor.parts_toDecimal (h : m.IsCanonicalFor n.toDecimal)
    (hn : ∃ d ∈ n.digits, d ≠ 0) :
    m.weight = n.weight - leadingZeros n.digits ∧ m.digits = n.normalDigits := by
  have hsignificant := n.placeValue_significant
  rw [← h.placeValue_eq] at hsignificant
  have hweight := place_eq h.lead (hasLead_dropWhile hn) m.digits_lt n.significant_lt
    hsignificant.symm
  have htrim := h.trimmed
  have hvalue := h.placeValue_eq
  rw [hweight] at htrim hvalue
  refine ⟨hweight, eq_of_isTrimmed htrim n.isTrimmed_normalDigits m.digits_lt n.normalDigits_lt ?_⟩
  rw [hvalue, n.placeValue_normalDigits]

theorem scale_toDecimal (n : Number) :
    (n.toDecimal.scale : ℤ) = 4 * max 0 ((n.digits.length : ℤ) - 1 - n.weight) := by
  simp only [Decimal.scale, toDecimal, decimalsPerDigit]
  omega

/-- A decimal from the wire is never too large, so its scale decides. -/
theorem accepts_toDecimal_iff (settings : Settings) (hn : ∃ d ∈ n.digits, d ≠ 0) :
    settings.Accepts n.toDecimal ↔
      4 * ((n.digits.length : ℤ) - 1 - n.weight) ≤ settings.maxScale := by
  have hweight := Decimal.leadingWeight_eq (not_isZero_toDecimal hn) (hasLead_dropWhile hn)
    n.significant_lt n.placeValue_significant
  have hscale := n.scale_toDecimal
  have hmax := n.weight_bounds.2
  rw [Settings.Accepts, hweight]
  omega

/-! ### The passes after the first -/

/-- The aligned decimal of an accepted one is accepted as well: the value is the same, and it
has no more places behind the point than the scale lets expect. -/
theorem IsCanonicalFor.accepts_toDecimal (h : m.IsCanonicalFor n.toDecimal)
    (hn : ∃ d ∈ n.digits, d ≠ 0) (haccepts : settings.Accepts n.toDecimal) :
    settings.Accepts m.toDecimal := by
  have hx := not_isZero_toDecimal hn
  obtain ⟨k, hk, hexponent⟩ := (h.isAlignedFor hx).exponent
  obtain ⟨j, hj⟩ : ∃ j : ℕ, (j : ℤ) = max 0 ((n.digits.length : ℤ) - 1 - n.weight) :=
    ⟨(max 0 ((n.digits.length : ℤ) - 1 - n.weight)).toNat, by omega⟩
  have hscale := n.scale_toDecimal
  have hle : k ≤ j := hk.2 (Decimal.mem_places_of_scale_le (by omega))
  have hlead : ∃ d ∈ m.digits, d ≠ 0 := by
    obtain ⟨d, hd, hne⟩ := h.lead
    exact ⟨d, List.mem_of_mem_head? hd, hne⟩
  have hlimit := haccepts.2
  rw [accepts_toDecimal_iff settings hlead]
  have hexponent' : m.toDecimal.exponent = 4 * (m.weight - m.digits.length + 1) := rfl
  omega

end Number

/-- **A pass changes nothing but the scale of a canonical form.** -/
theorem reencode_of_isCanonicalFor {m n : Number} (h : m.IsCanonicalFor n.toDecimal)
    (hn : ∃ d ∈ n.digits, d ≠ 0) (haccepts : settings.Accepts n.toDecimal) :
    ∃ p : Number, reencode settings (.number m) = .ok (.number p) ∧ p.sign = m.sign ∧
      p.weight = m.weight ∧ p.digits = m.digits ∧
      reencode settings (.number p) = .ok (.number p) := by
  have hx := Number.not_isZero_toDecimal hn
  have haligned := h.isAlignedFor hx
  have hy : ¬ m.toDecimal.IsZero := by
    rw [← Decimal.value_eq_zero_iff, haligned.value, Decimal.value_eq_zero_iff]
    exact hx
  obtain ⟨p, hp, hcanon⟩ := ofDecimal_of_accepts hy (h.accepts_toDecimal hn haccepts)
  obtain ⟨hweight, hdigits⟩ := hcanon.parts_eq h (by rw [haligned.value])
  have hsign : p.sign = m.sign := hcanon.sign_eq
  refine ⟨p, hp, hsign, hweight, hdigits, ?_⟩
  -- Both have the same decimal: the scale, in which they may differ, is not consulted.
  have hsame : p.toDecimal = m.toDecimal := Number.toDecimal_congr hsign hweight hdigits
  rw [reencode_number_eq, hsame]
  exact hp

/-! ### One, two and three passes -/

theorem reencode_of_zeros {n : Number} (hzero : ∀ d ∈ n.digits, d = 0) :
    reencode settings (.number n) = .ok zero := by
  rw [reencode_number_eq]
  exact ofDecimal_of_isZero ((Number.isZero_toDecimal_iff n).mpr hzero)

theorem reencode_eq_error_iff {n : Number} (hn : ∃ d ∈ n.digits, d ≠ 0) :
    (∃ excess, reencode settings (.number n) = .error (.outOfRange excess)) ↔
      (settings.maxScale : ℤ) < 4 * (n.digits.length - 1 - n.weight) := by
  have hx := Number.not_isZero_toDecimal hn
  have haccepts_iff := Number.accepts_toDecimal_iff settings hn
  rw [reencode_number_eq]
  constructor
  · rintro ⟨excess, herror⟩
    by_contra hle
    obtain ⟨m, hm, -⟩ := ofDecimal_of_accepts hx (haccepts_iff.mpr (by omega))
    rw [hm] at herror
    simp at herror
  · intro hlt
    have hnot : ¬ settings.Accepts n.toDecimal := fun haccepts => by
      have := haccepts_iff.mp haccepts
      omega
    exact ⟨_, ofDecimal_of_not_accepts hx hnot⟩

/-- What one pass makes of a number that it does not refuse. -/
theorem exists_reencode_eq {n : Number} (hn : ∃ d ∈ n.digits, d ≠ 0)
    (hle : 4 * (n.digits.length - 1 - n.weight) ≤ (settings.maxScale : ℤ)) :
    ∃ m : Number, reencode settings (.number n) = .ok (.number m) ∧ m.sign = n.sign ∧
      m.weight = n.weight - leadingZeros n.digits ∧
      (m.scale : ℤ) = 4 * max 0 (n.digits.length - 1 - n.weight) ∧
      m.digits = n.normalDigits := by
  have haccepts := (Number.accepts_toDecimal_iff settings hn).mpr hle
  obtain ⟨m, hm, hcanon⟩ := ofDecimal_of_accepts (Number.not_isZero_toDecimal hn) haccepts
  obtain ⟨hweight, hdigits⟩ := hcanon.parts_toDecimal hn
  have hscale : (m.scale : ℤ) = n.toDecimal.scale := by
    rw [hcanon.scale, Decimal.scale]
    omega
  exact ⟨m, hm, hcanon.sign_eq, hweight, hscale.trans n.scale_toDecimal, hdigits⟩

/-- What the passes after one that succeeds do. -/
theorem reencode_settles {n : Number} {w : Numeric} (h : reencode settings (.number n) = .ok w) :
    ∃ m p : Number, w = .number m ∧ reencode settings w = .ok (.number p) ∧
      p.sign = m.sign ∧ p.weight = m.weight ∧ p.digits = m.digits ∧
      reencode settings (.number p) = .ok (.number p) := by
  by_cases hn : ∃ d ∈ n.digits, d ≠ 0
  · rw [reencode_number_eq] at h
    obtain ⟨haccepts, hw⟩ := (ofDecimal_eq_ok_iff (Number.not_isZero_toDecimal hn)).mp h
    cases w with
    | nan => exact hw.elim
    | number m =>
        obtain ⟨p, hp⟩ := reencode_of_isCanonicalFor hw hn haccepts
        exact ⟨m, p, rfl, hp⟩
  · have hzero : ∀ d ∈ n.digits, d = 0 := by
      intro d hd
      by_contra hne
      exact hn ⟨d, hd, hne⟩
    rw [reencode_of_zeros hzero] at h
    obtain rfl := Except.ok.inj h
    have hagain : reencode settings zero = .ok zero := reencode_of_zeros (by decide)
    exact ⟨.zero, .zero, rfl, hagain, rfl, rfl, rfl, hagain⟩

/-- **Sent through a decimal and back, a wire value is brought into normal form, and twice
suffices.** -/
theorem reencode_number (settings : Settings) (n : Number) :
    ((∀ d ∈ n.digits, d = 0) → reencode settings (.number n) = .ok zero) ∧
    ((∃ d ∈ n.digits, d ≠ 0) →
      ((∃ excess, reencode settings (.number n) = .error (.outOfRange excess)) ↔
        (settings.maxScale : ℤ) < 4 * (n.digits.length - 1 - n.weight)) ∧
      (4 * (n.digits.length - 1 - n.weight) ≤ (settings.maxScale : ℤ) →
        ∃ m : Number, reencode settings (.number n) = .ok (.number m) ∧ m.sign = n.sign ∧
          m.weight = n.weight - leadingZeros n.digits ∧
          (m.scale : ℤ) = 4 * max 0 (n.digits.length - 1 - n.weight) ∧
          m.digits = n.normalDigits)) ∧
    (∀ w, reencode settings (.number n) = .ok w →
      ∃ m p : Number, w = .number m ∧ reencode settings w = .ok (.number p) ∧
        p.sign = m.sign ∧ p.weight = m.weight ∧ p.digits = m.digits ∧
        reencode settings (.number p) = .ok (.number p)) := by
  refine ⟨reencode_of_zeros, fun hn => ⟨reencode_eq_error_iff hn, ?_⟩, fun w h => ?_⟩
  · intro hle
    exact exists_reencode_eq hn hle
  · exact reencode_settles h

/-- Zeros at either end and one digit too many behind the point: the scale goes from 3 to 12
and from there to 8, where it stays. -/
theorem reencode_number_settles :
    ∃ m p : Number,
      reencode .default
          (.number ⟨.negative, 1, 3, [0, 12, 0, 3400, 0], by decide, by decide, by decide⟩) =
        .ok (.number m) ∧ m.weight = 0 ∧ m.scale = 12 ∧ m.digits = [12, 0, 3400] ∧
      reencode .default (.number m) = .ok (.number p) ∧ p.scale = 8 ∧ p.digits = m.digits ∧
      reencode .default (.number p) = .ok (.number p) := by
  obtain ⟨-, hnormal, hsettles⟩ := reencode_number .default
    ⟨.negative, 1, 3, [0, 12, 0, 3400, 0], by decide, by decide, by decide⟩
  obtain ⟨m, hm, -, hweight, hscale, hdigits⟩ := (hnormal ⟨12, by decide, by decide⟩).2 (by decide)
  obtain ⟨m', p, hm', hp, -, -, hpdigits, hagain⟩ := hsettles _ hm
  obtain rfl := number.inj hm'
  have hmparts : m = ⟨.negative, 0, 12, [12, 0, 3400], by decide, by decide, by decide⟩ :=
    number.inj (Except.ok.inj hm.symm)
  have hpparts : p = ⟨.negative, 0, 8, [12, 0, 3400], by decide, by decide, by decide⟩ := by
    rw [hmparts] at hp
    exact number.inj (Except.ok.inj hp.symm)
  exact ⟨m, p, hm, by rw [hmparts], by rw [hmparts], by rw [hmparts], hp, by rw [hpparts],
    hpdigits, hagain⟩

end Numeric

end NumericWire
