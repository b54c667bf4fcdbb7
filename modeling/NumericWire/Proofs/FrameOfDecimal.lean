import NumericWire.Proofs.Acceptance
import NumericWire.Proofs.FrameInverse
import NumericWire.Proofs.RoundTrip
/-!
# NumericWire.Proofs.FrameOfDecimal

**From decimals to frames and back.** Two limits meet here: that of the wire value, on the weight
and the scale, and that of the frame, on the number of digits. The canonical form of a decimal
has one digit for each place from the leading one down to the point, or to the last that its
value needs behind the point (`IsCanonicalFor.length_digits`), so both limits come to one
condition on the leading place and the places behind the point. Every weight that a frame with
that many digits can have is small enough, and the weight never decides alone.
-/

namespace NumericWire

open Base10000

namespace Decimal

variable {x : Decimal}

/-- The power of 10000 of the first digit. -/
def order (x : Decimal) : ℤ := ((Nat.toDigits 10 x.coefficient).length + x.exponent - 1) / 4

theorem leadingWeight_eq_order (x : Decimal) : x.leadingWeight = x.order := by
  have hlength := Numeral.length_eq x.coefficient
  simp only [leadingWeight, adjusted, digitCount, order, decimalsPerDigit, hlength]
  congr 1
  ring

theorem exists_isLeast_places (x : Decimal) : ∃ k, IsLeast (places x.value) k :=
  ⟨_, Nat.sInf_mem ⟨x.scale, mem_places_of_scale_le (by omega)⟩, fun _ hk => Nat.sInf_le hk⟩

end Decimal

namespace Numeric.Number

variable {n : Number} {x : Decimal} {k : ℕ}

theorem IsCanonicalFor.weight_eq (h : n.IsCanonicalFor x) : n.weight = x.order := by
  rw [← x.leadingWeight_eq_order]
  exact (Decimal.leadingWeight_eq h.not_isZero h.lead n.digits_lt h.placeValue_eq).symm

/-- **How many digits a canonical form has**: those up to the point and those behind it. -/
theorem IsCanonicalFor.length_digits (h : n.IsCanonicalFor x)
    (hk : IsLeast (places x.value) k) : (n.digits.length : ℤ) = x.order + 1 + k := by
  obtain ⟨j, hj, hexponent⟩ := h.exponent_toDecimal
  obtain rfl := hk.unique hj
  have hweight := h.weight_eq
  simp only [toDecimal, decimalsPerDigit] at hexponent
  omega

end Numeric.Number

namespace Frame

open Numeric

variable {settings : Settings} {x : Decimal} {q : Quantity} {w : Numeric} {bs : List UInt8}

/-! ### The two steps -/

theorem ofQuantity_eq_ok_iff :
    ofQuantity settings q = .ok bs ↔
      ∃ w, Numeric.ofQuantity settings q = .ok w ∧ pack w = .ok bs := by
  unfold ofQuantity
  cases Numeric.ofQuantity settings q <;> simp

theorem ofQuantity_of_ok (h : Numeric.ofQuantity settings q = .ok w) :
    ofQuantity settings q = pack w := by
  rw [ofQuantity, h]

theorem ofQuantity_of_error {fault : Fault} (h : Numeric.ofQuantity settings q = .error fault) :
    ofQuantity settings q = .error fault := by
  rw [ofQuantity, h]

/-- What is read back from a frame is the decimal of the wire value. -/
theorem toDecimal_of_pack (h : pack w = .ok bs) : toDecimal bs = w.toDecimal := by
  rw [toDecimal, unpack_pack h]

/-! ### Decimals other than zero -/

/-- Whether neither the decimal places nor the digits of a decimal are too many, where its value
needs a given number of digits behind the point. -/
def Fits (settings : Settings) (x : Decimal) (k : ℕ) : Prop :=
  max 0 (-x.exponent) ≤ (settings.maxScale : ℤ) ∧ x.order + k ≤ 32766

instance (settings : Settings) (x : Decimal) (k : ℕ) : Decidable (Fits settings x k) :=
  inferInstanceAs (Decidable (_ ∧ _))

theorem Fits.accepts {k : ℕ} (h : Fits settings x k) : settings.Accepts x := by
  obtain ⟨hscale, horder⟩ := h
  rw [Settings.Accepts, x.leadingWeight_eq_order, Decimal.scale]
  simp only [maxWeight]
  omega

/-- A decimal that fits is written, with one digit for each of its places. -/
theorem ofQuantity_of_fits {k : ℕ} (hx : ¬ x.IsZero) (hk : IsLeast (places x.value) k)
    (h : Fits settings x k) :
    ∃ bs y, ofQuantity settings (.finite x) = .ok bs ∧
      (bs.length : ℤ) = 8 + 2 * (x.order + 1 + k) ∧
      toDecimal bs = .ok y ∧ y.exponent = -(4 * k) ∧ y.value = x.value := by
  obtain ⟨n, hn, hcanon⟩ := ofDecimal_of_accepts hx h.accepts
  have hcount := hcanon.length_digits hk
  obtain ⟨hscale, horder⟩ := h
  obtain ⟨bs, hbs⟩ : ∃ bs, pack (.number n) = .ok bs := exists_pack (by
    simp only [digitCount]
    omega)
  have haligned := hcanon.isAlignedFor hx
  obtain ⟨j, hj, hexponent⟩ := haligned.exponent
  obtain rfl := hk.unique hj
  have hlength := length_pack hbs
  simp only [digitCount] at hlength
  exact ⟨bs, n.toDecimal, (ofQuantity_of_ok (q := .finite x) hn).trans hbs, by omega,
    toDecimal_of_pack hbs, hexponent, haligned.value⟩

/-- One that does not fit is refused, by the one limit or the other. -/
theorem ofQuantity_of_not_fits {k : ℕ} (hx : ¬ x.IsZero) (hk : IsLeast (places x.value) k)
    (h : ¬ Fits settings x k) :
    ∃ excess, ofQuantity settings (.finite x) = .error (.outOfRange excess) := by
  by_cases haccepts : settings.Accepts x
  · obtain ⟨n, hn, hcanon⟩ := ofDecimal_of_accepts hx haccepts
    have hcount := hcanon.length_digits hk
    have hscale : max 0 (-x.exponent) ≤ (settings.maxScale : ℤ) := by
      have hle := haccepts.2
      simp only [Decimal.scale] at hle
      omega
    have hlong : 32767 < digitCount (.number n) := by
      have horder : ¬ x.order + k ≤ 32766 := fun horder => h ⟨hscale, horder⟩
      simp only [digitCount]
      omega
    exact ⟨_, (ofQuantity_of_ok (q := .finite x) hn).trans (pack_eq_error_iff.mpr ⟨hlong, rfl⟩)⟩
  · exact ⟨_, ofQuantity_of_error (ofDecimal_of_not_accepts hx haccepts)⟩

/-- **Through a frame and back.** A decimal is written unless it has too many decimal places for
the settings, or too many digits; it comes back with its value, and with as many digits behind
the point as that needs. A zero comes back as the integer 0. Not-a-number is written where the
settings let it, and never comes back. -/
theorem toDecimal_ofQuantity_frame (settings : Settings) :
    (∀ x : Decimal, ¬ x.IsZero →
      ∃ k : ℕ, IsLeast {j : ℕ | ∃ m : ℤ, x.value * 10 ^ (4 * j) = m} k ∧
        (Fits settings x k →
          ∃ bs y, ofQuantity settings (.finite x) = .ok bs ∧
            (bs.length : ℤ) = 8 + 2 * (x.order + 1 + k) ∧
            toDecimal bs = .ok y ∧ y.exponent = -(4 * k) ∧ y.value = x.value) ∧
        (¬ Fits settings x k →
          ∃ excess, ofQuantity settings (.finite x) = .error (.outOfRange excess))) ∧
    (∀ x : Decimal, x.IsZero →
      ∃ bs, ofQuantity settings (.finite x) = .ok bs ∧ toDecimal bs = .ok (.ofInt 0)) ∧
    (∀ signaling, settings.encodeNan →
      ∃ bs, ofQuantity settings (.nan signaling) = .ok bs ∧
        toDecimal bs = .error (.unsupported .nanValue)) := by
  refine ⟨?_, ?_, ?_⟩
  · intro x hx
    obtain ⟨k, hk⟩ := x.exists_isLeast_places
    exact ⟨k, hk, ofQuantity_of_fits hx hk, ofQuantity_of_not_fits hx hk⟩
  · intro x hx
    have hzero : Numeric.ofQuantity settings (.finite x) = .ok zero := ofDecimal_of_isZero hx
    obtain ⟨bs, hbs⟩ : ∃ bs, pack zero = .ok bs := exists_pack (by decide)
    exact ⟨bs, (ofQuantity_of_ok hzero).trans hbs, toDecimal_of_pack hbs⟩
  · intro signaling hnan
    have hok : Numeric.ofQuantity settings (.nan signaling) = .ok .nan := if_pos hnan
    exact ⟨_, (ofQuantity_of_ok hok).trans pack_nan, toDecimal_of_pack pack_nan⟩

/-- The largest exponent of a two-digit coefficient, and the next one: it has a wire value, of
weight 32767, but one with more digits than a frame can hold. -/
theorem toDecimal_ofQuantity_frame_limit :
    (∃ bs y, ofQuantity .default (.finite ⟨.negative, 12, 131066⟩) = .ok bs ∧
      bs.length = 65542 ∧ toDecimal bs = .ok y ∧
      y.value = (⟨.negative, 12, 131066⟩ : Decimal).value) ∧
    (∃ excess, ofQuantity .default (.finite ⟨.negative, 12, 131067⟩) =
      .error (.outOfRange excess)) := by
  obtain ⟨hframe, -⟩ := toDecimal_ofQuantity_frame .default
  constructor
  · obtain ⟨k, hk, hfits, -⟩ := hframe ⟨.negative, 12, 131066⟩ (by decide)
    obtain rfl := hk.unique (Decimal.isLeast_places_zero rfl)
    obtain ⟨bs, y, hbs, hlength, hy, -, hvalue⟩ := hfits (by decide)
    have horder : (⟨.negative, 12, 131066⟩ : Decimal).order = 32766 := by decide
    rw [horder] at hlength
    exact ⟨bs, y, hbs, by omega, hy, hvalue⟩
  · obtain ⟨k, hk, -, hrefused⟩ := hframe ⟨.negative, 12, 131067⟩ (by decide)
    obtain rfl := hk.unique (Decimal.isLeast_places_zero rfl)
    exact hrefused (by decide)

end Frame

end NumericWire
