import NumericWire.Decimal.Value
import NumericWire.Numeric.OfDecimal
import NumericWire.Numeric.ToDecimal
import NumericWire.Proofs.PlaceValue
/-!
# NumericWire.Proofs.Canonical

**The canonical wire form of a decimal.** Of the wire values that stand for a decimal one is
canonical: it starts with a digit that is not zero, writes out every digit in front of the
point, and stops behind the point at the last digit that is not zero. There is at most one
(`IsCanonicalFor.unique`), since the value fixes the first place and then the digits.

The decimal of a canonical wire value has the places behind the point that its value needs
and no more (`IsCanonicalFor.exponent_toDecimal`).
-/

namespace NumericWire

open Base10000

namespace Numeric

/-! ### Dropping zeros from the end -/

/-- What is dropped from the end are zeros. -/
theorem dropTrailingZeros_append (ds : List ℕ) :
    ∃ k, ds = dropTrailingZeros ds ++ List.replicate k 0 := by
  have hzeros : ∀ d ∈ ds.rtakeWhile (· == 0), d = 0 := fun d hd => by
    simpa using List.mem_rtakeWhile_imp hd
  refine ⟨(ds.rtakeWhile (· == 0)).length, ?_⟩
  rw [← List.eq_replicate_of_mem hzeros]
  exact (List.rdropWhile_append_rtakeWhile (p := (· == 0))).symm

theorem getLast?_dropTrailingZeros (ds : List ℕ) : (dropTrailingZeros ds).getLast? ≠ some 0 := by
  intro h
  have hne : ds.rdropWhile (· == 0) ≠ [] := fun hnil => by
    rw [dropTrailingZeros, ← List.rdropWhile, hnil] at h
    simp at h
  have hlast := List.rdropWhile_last_not (· == 0) ds hne
  rw [dropTrailingZeros, ← List.rdropWhile, List.getLast?_eq_some_getLast hne] at h
  simp [Option.some.inj h] at hlast

/-- Only zeros are dropped behind the point, and none in front of it. -/
theorem trimFraction_append (weight : ℤ) (ds : List ℕ) :
    ∃ k, ds = trimFraction weight ds ++ List.replicate k 0 := by
  obtain ⟨k, hk⟩ := dropTrailingZeros_append (ds.drop (weight + 1).toNat)
  refine ⟨k, ?_⟩
  rw [trimFraction, List.append_assoc, ← hk, List.take_append_drop]

@[simp] theorem placeValue_trimFraction (place weight : ℤ) (ds : List ℕ) :
    placeValue place (trimFraction weight ds) = placeValue place ds := by
  obtain ⟨k, hk⟩ := trimFraction_append weight ds
  conv_rhs => rw [hk]
  rw [placeValue_append_zeros]

theorem mem_of_mem_trimFraction {weight : ℤ} {ds : List ℕ} {d : ℕ}
    (h : d ∈ trimFraction weight ds) : d ∈ ds := by
  obtain ⟨k, hk⟩ := trimFraction_append weight ds
  rw [hk]
  exact List.mem_append_left _ h

/-- A first digit that is not zero stays. -/
theorem hasLead_trimFraction {weight : ℤ} {ds : List ℕ} (h : HasLead ds) :
    HasLead (trimFraction weight ds) := by
  obtain ⟨d, hd, hne⟩ := h
  obtain ⟨k, hk⟩ := trimFraction_append weight ds
  refine ⟨d, ?_, hne⟩
  rw [hk, List.head?_append, List.head?_replicate] at hd
  cases hhead : (trimFraction weight ds).head? with
  | some e => simpa [hhead] using hd
  | none =>
      rw [hhead] at hd
      split at hd
      · simp at hd
      · simp only [Option.none_or, Option.some.injEq] at hd
        exact absurd hd.symm hne

/-- Digits that reach the point are trimmed to such that do and that go beyond it no
further than needed. -/
theorem isTrimmed_trimFraction {weight : ℤ} {ds : List ℕ} (h : weight + 1 ≤ ds.length) :
    IsTrimmed weight (trimFraction weight ds) := by
  have hwhole : (ds.take (weight + 1).toNat).length = (weight + 1).toNat := by
    rw [List.length_take]
    omega
  constructor
  · rw [trimFraction, List.length_append, hwhole]
    omega
  · intro hlonger hlast
    rw [trimFraction, List.length_append, hwhole] at hlonger
    have hne : dropTrailingZeros (ds.drop (weight + 1).toNat) ≠ [] := by
      intro hnil
      rw [hnil, List.length_nil] at hlonger
      omega
    rw [trimFraction, List.getLast?_append_of_ne_nil _ hne] at hlast
    exact getLast?_dropTrailingZeros _ hlast

/-! ### Wire values and the decimals they stand for -/

namespace Number

theorem digits_lt (n : Number) : ∀ d ∈ n.digits, d < base := fun d hd => by
  have := n.digits_le d hd
  simp only [maxDigit] at this
  have hbase : 0 < base := by decide
  omega

/-- The digits' value is the magnitude of the decimal. -/
theorem abs_value_toDecimal (n : Number) :
    |n.toDecimal.value| = placeValue n.weight n.digits := by
  rw [Decimal.abs_value, placeValue_eq, base_zpow_eq]
  rfl

end Number

/-! ### The canonical form -/

/-- Whether a number on the wire is the canonical form of a decimal. That the digits, the
weight and the scale are in range is part of its type. -/
structure Number.IsCanonicalFor (n : Number) (x : Decimal) : Prop where
  /-- Both are negative, or none is. -/
  sign : n.sign = .negative ↔ x.sign = .negative
  /-- The scale is the number of decimal places behind the point. -/
  scale : (n.scale : ℤ) = max 0 (-x.exponent)
  /-- There is a first digit, and it is not zero. -/
  lead : HasLead n.digits
  /-- The places descend from the weight. -/
  value : |x.value| =
    ∑ i : Fin n.digits.length, (n.digits[i] : ℚ) * (base : ℚ) ^ (n.weight - (i : ℤ))
  /-- No digit in front of the point is left out, and no zero ends those behind it. -/
  trimmed : IsTrimmed n.weight n.digits

/-- Whether a wire value is the canonical form of a decimal. -/
def IsCanonicalFor : Numeric → Decimal → Prop
  | number n, x => n.IsCanonicalFor x
  | nan, _ => False

namespace Number

variable {m n : Number} {x y : Decimal}

theorem IsCanonicalFor.placeValue_eq (h : n.IsCanonicalFor x) :
    placeValue n.weight n.digits = |x.value| := by
  rw [placeValue_eq_sum, h.value]

theorem IsCanonicalFor.sign_eq (h : n.IsCanonicalFor x) : n.sign = x.sign := by
  have hsign := h.sign
  cases hn : n.sign <;> cases hx : x.sign <;> simp [hn, hx] at hsign ⊢

/-- **The magnitude fixes weight and digits** of a canonical form: first the weight, as the
order of magnitude, and from it the digits. -/
theorem IsCanonicalFor.parts_eq (hm : m.IsCanonicalFor x) (hn : n.IsCanonicalFor y)
    (h : |x.value| = |y.value|) : m.weight = n.weight ∧ m.digits = n.digits := by
  have hvalue : placeValue m.weight m.digits = placeValue n.weight n.digits := by
    rw [hm.placeValue_eq, hn.placeValue_eq, h]
  have hweight := place_eq hm.lead hn.lead m.digits_lt n.digits_lt hvalue
  rw [hweight] at hvalue
  have htrim := hm.trimmed
  rw [hweight] at htrim
  exact ⟨hweight, eq_of_isTrimmed htrim hn.trimmed m.digits_lt n.digits_lt hvalue⟩

/-- Digits with a lead have a value, so a zero has no canonical form. -/
theorem IsCanonicalFor.not_isZero (h : n.IsCanonicalFor x) : ¬ x.IsZero := by
  intro hzero
  have hlow := (h.lead.bounds n.weight n.digits_lt).1
  rw [h.placeValue_eq, (Decimal.value_eq_zero_iff x).mpr hzero, abs_zero] at hlow
  exact absurd hlow (not_le.mpr (zpow_pos base_cast_pos _))

/-- **Equal values have the same sign, weight and digits**, and no others have. -/
theorem IsCanonicalFor.value_eq_iff (hm : m.IsCanonicalFor x) (hn : n.IsCanonicalFor y) :
    x.value = y.value ↔ m.sign = n.sign ∧ m.weight = n.weight ∧ m.digits = n.digits := by
  constructor
  · intro hvalue
    obtain ⟨hweight, hdigits⟩ := hm.parts_eq hn (by rw [hvalue])
    refine ⟨?_, hweight, hdigits⟩
    rw [hm.sign_eq, hn.sign_eq, Decimal.sign_eq_of_value_eq hm.not_isZero hvalue]
  · rintro ⟨hsign, hweight, hdigits⟩
    rw [x.value_eq_sign_mul_abs, y.value_eq_sign_mul_abs, ← hm.placeValue_eq, ← hn.placeValue_eq,
      ← hm.sign_eq, ← hn.sign_eq, hsign, hweight, hdigits]

theorem IsCanonicalFor.eq_iff (hm : m.IsCanonicalFor x) (hn : n.IsCanonicalFor y) :
    m = n ↔ x.value = y.value ∧ max 0 (-x.exponent) = max 0 (-y.exponent) := by
  rw [hm.value_eq_iff hn, ← hm.scale, ← hn.scale]
  constructor
  · rintro rfl
    exact ⟨⟨rfl, rfl, rfl⟩, rfl⟩
  · rintro ⟨⟨hsign, hweight, hdigits⟩, hscale⟩
    cases m
    cases n
    simp_all

/-- **A decimal has at most one canonical form.** -/
theorem IsCanonicalFor.unique (hm : m.IsCanonicalFor x) (hn : n.IsCanonicalFor x) : m = n :=
  (hm.eq_iff hn).mpr ⟨rfl, rfl⟩

/-- Zero starts with a zero, and no canonical form does. -/
theorem IsCanonicalFor.ne_zero (h : n.IsCanonicalFor x) : n ≠ .zero := by
  rintro rfl
  obtain ⟨d, hd, hne⟩ := h.lead
  exact hne (Option.some.inj hd).symm

/-- **The exponent of its decimal** says that a canonical form has as many base-10000 digits
behind the point as the value needs. -/
theorem IsCanonicalFor.exponent_toDecimal (h : n.IsCanonicalFor x) :
    ∃ k : ℕ, IsLeast (places x.value) k ∧ n.toDecimal.exponent = -(4 * k) := by
  have hreach := h.trimmed.reach
  obtain ⟨k, hk⟩ : ∃ k : ℕ, (k : ℤ) = n.digits.length - 1 - n.weight :=
    ⟨(n.digits.length - 1 - n.weight).toNat, by omega⟩
  have hleast := isLeast_places hk h.lead.ne_nil h.trimmed n.digits_lt
  rw [h.placeValue_eq, places_abs] at hleast
  refine ⟨k, hleast, ?_⟩
  simp only [toDecimal, decimalsPerDigit]
  omega

end Number

theorem IsCanonicalFor.eq {u w : Numeric} {x : Decimal} (hu : u.IsCanonicalFor x)
    (hw : w.IsCanonicalFor x) : u = w := by
  cases u with
  | nan => exact hu.elim
  | number m =>
      cases w with
      | nan => exact hw.elim
      | number n => rw [Number.IsCanonicalFor.unique hu hw]

end Numeric

end NumericWire
