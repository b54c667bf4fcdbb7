import NumericWire.Proofs.Canonical
/-!
# NumericWire.Proofs.Decoding

**The decimal of a wire value is what its digits are worth in their places**, canonical or not.
The digits may have zeros at either end, leave out those in front of the point or be absent; the
decimal has the integer that they spell as its coefficient and loses nothing of it.

The scale makes no difference, and neither do zeros in front of the digits if the weight is raised
along with them (`padFront`). Zeros behind the digits (`padBack`) move the exponent down, and the
coefficient up by as much.
-/

namespace NumericWire

open Base10000

namespace Base10000

/-! ### The integer that digits stand for -/

/-- Place by place, down to the ones. -/
theorem ofDigits_eq_sum (ds : List ℕ) :
    ofDigits ds = ∑ i : Fin ds.length, ds.get i * base ^ (ds.length - 1 - (i : ℕ)) := by
  induction ds with
  | nil => rfl
  | cons d ds ih =>
      have hplace : ∀ i : Fin ds.length,
          ds.length - ((i : ℕ) + 1) = ds.length - 1 - (i : ℕ) := by
        intro i
        omega
      have hsum := Fin.sum_univ_succ fun i : Fin (ds.length + 1) =>
        (d :: ds).get i * base ^ (ds.length + 1 - 1 - (i : ℕ))
      rw [ofDigits_cons, ih]
      refine Eq.trans ?_ hsum.symm
      simp [hplace]

theorem replicate_zero_le (j : ℕ) : ∀ d ∈ List.replicate j 0, d ≤ maxDigit := by
  intro d hd
  rw [List.eq_of_mem_replicate hd]
  exact Nat.zero_le _

end Base10000

namespace Numeric

namespace Number

/-! ### Zeros at either end -/

/-- With zeros in front of the digits, and the weight raised by as many places. -/
def padFront (n : Number) (j : ℕ) (h : n.weight + j ≤ maxWeight) : Number :=
  { n with
    weight := n.weight + j
    digits := List.replicate j 0 ++ n.digits
    weight_bounds := ⟨n.weight_bounds.1.trans (by omega), h⟩
    digits_le := List.forall_mem_append.mpr ⟨replicate_zero_le j, n.digits_le⟩ }

/-- With zeros behind the digits. -/
def padBack (n : Number) (j : ℕ) : Number :=
  { n with
    digits := n.digits ++ List.replicate j 0
    digits_le := List.forall_mem_append.mpr ⟨n.digits_le, replicate_zero_le j⟩ }

variable (n : Number) (j : ℕ)

/-- Zeros in front make no difference: the last digit keeps its place. -/
theorem toDecimal_padFront (h : n.weight + j ≤ maxWeight) :
    (n.padFront j h).toDecimal = n.toDecimal := by
  have hplace : n.weight + j - ((List.replicate j 0 ++ n.digits).length : ℤ) + 1 =
      n.weight - n.digits.length + 1 := by
    rw [List.length_append, List.length_replicate]
    omega
  simp only [toDecimal, padFront, ofDigits_replicate_append, hplace]

theorem exponent_padBack :
    (n.padBack j).toDecimal.exponent = n.toDecimal.exponent - 4 * j := by
  simp only [toDecimal, padBack, List.length_append, List.length_replicate, decimalsPerDigit]
  omega

/-- The decimal is worth what the number stands for. -/
theorem value_toDecimal : n.toDecimal.value = n.value := by
  rw [Decimal.value_eq_sign_mul_abs, n.abs_value_toDecimal]
  rfl

/-- Zeros behind the digits are worth nothing. -/
theorem value_padBack : (n.padBack j).toDecimal.value = n.toDecimal.value := by
  rw [value_toDecimal, value_toDecimal, value, value]
  exact congrArg _ (placeValue_append_zeros n.weight n.digits j)

end Number

/-! ### Place values -/

/-- **The decimal of a wire value is its place value**, whatever its digits are. -/
theorem toDecimal_eq_placeValue (n : Number) :
    ∃ x, (number n).toDecimal = .ok x ∧
      -- What the decimal consists of: the coefficient is the integer that the digits spell.
      x.sign = n.sign ∧ x.exponent = 4 * (n.weight - n.digits.length + 1) ∧
      x.coefficient = ∑ i : Fin n.digits.length,
        n.digits[i] * 10000 ^ (n.digits.length - 1 - (i : ℕ)) ∧
      -- What it is worth: nothing is rounded.
      x.value = n.sign.apply 1 * ∑ i : Fin n.digits.length,
        (n.digits[i] : ℚ) * 10000 ^ (n.weight - (i : ℤ)) ∧
      -- The scale makes no difference, and neither do zeros in front.
      (∀ m : Number, m.sign = n.sign → m.weight = n.weight → m.digits = n.digits →
        (number m).toDecimal = .ok x) ∧
      (∀ (j : ℕ) (h : n.weight + j ≤ maxWeight), (number (n.padFront j h)).toDecimal = .ok x) ∧
      -- Zeros at the end lower the exponent and leave the value alone.
      (∀ j : ℕ, ∃ y, (number (n.padBack j)).toDecimal = .ok y ∧ y.sign = x.sign ∧
        y.exponent = x.exponent - 4 * j ∧ y.value = x.value) := by
  refine ⟨n.toDecimal, rfl, rfl, rfl, ofDigits_eq_sum n.digits, ?_, ?_, ?_, ?_⟩
  · have hbase : (10000 : ℚ) = base := by norm_num [base]
    rw [n.value_toDecimal, Number.value, placeValue_eq_sum, hbase]
  · intro m hsign hweight hdigits
    exact congrArg _ (Number.toDecimal_congr hsign hweight hdigits)
  · intro j h
    exact congrArg _ (n.toDecimal_padFront j h)
  · intro j
    exact ⟨(n.padBack j).toDecimal, rfl, rfl, n.exponent_padBack j, n.value_padBack j⟩

/-- No digits at all have a decimal as well; and zeros at both ends of digits that stop before the
point. -/
theorem toDecimal_eq_placeValue_sparse :
    (number ⟨.negative, 5, 3, [], by decide, by decide, by decide⟩).toDecimal =
        .ok ⟨.negative, 0, 24⟩ ∧
      (number ⟨.positive, 4, 0, [0, 0, 12, 0], by decide, by decide, by decide⟩).toDecimal =
        .ok ⟨.positive, 120000, 4⟩ ∧
      (number ⟨.positive, 2, 9, [12, 0], by decide, by decide, by decide⟩).toDecimal =
        .ok ⟨.positive, 120000, 4⟩ := by
  obtain ⟨x, hx, -, hexponent, -⟩ :=
    toDecimal_eq_placeValue ⟨.negative, 5, 3, [], by decide, by decide, by decide⟩
  obtain ⟨y, hy, -, -, -, -, hscale, hfront, -⟩ :=
    toDecimal_eq_placeValue ⟨.positive, 2, 0, [12, 0], by decide, by decide, by decide⟩
  obtain rfl : (⟨.negative, 0, 24⟩ : Decimal) = x := Except.ok.inj hx
  obtain rfl : (⟨.positive, 120000, 4⟩ : Decimal) = y := Except.ok.inj hy
  exact ⟨hx, hfront 2 (by decide), hscale _ rfl rfl rfl⟩

end Numeric

end NumericWire
