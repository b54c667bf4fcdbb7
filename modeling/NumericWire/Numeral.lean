import NumericWire.Base10000
/-!
# NumericWire.Numeral

**Decimal numerals** of natural numbers, written by way of base 10000: the first digit of
that base gives from one to four decimal digits, and each of the others gives four.

`ofNat_eq_toDigits` says that these are the decimal digits of the number, so a numeral has
no zero in front unless it is that of zero, and `toNat_ofNat` that it reads back.
-/

namespace NumericWire

-- Powers are those of the core library, whatever else is imported.
attribute [local instance (2000)] instPowNat

namespace Numeral

/-- The four decimal digits of a base-10000 digit, zeros in front included. -/
def fourDigits (d : Nat) : List Char :=
  [Nat.digitChar (d / 1000), Nat.digitChar (d / 100 % 10), Nat.digitChar (d / 10 % 10),
    Nat.digitChar (d % 10)]

/-- The decimal digits of a number. -/
def ofNat (n : Nat) : List Char :=
  match Base10000.digits n with
  | [] => []
  | first :: rest => Nat.toDigits 10 first ++ rest.flatMap fourDigits

/-- How many decimal digits a number has; zero has one. -/
def length (n : Nat) : Nat :=
  match Base10000.digits n with
  | [] => 0
  | first :: rest => (Nat.toDigits 10 first).length + Base10000.decimalsPerDigit * rest.length

/-- The number that decimal digits spell. -/
def toNat (ds : List Char) : Nat := Nat.ofDigitChars 10 ds 0

/-- A digit of base 10000 behind a nonzero number adds its four decimal digits. -/
theorem toDigits_concat {n d : Nat} (hn : 0 < n) (hd : d < Base10000.base) :
    Nat.toDigits 10 (n * Base10000.base + d) = Nat.toDigits 10 n ++ fourDigits d := by
  have hstep : ∀ (m e : Nat), 0 < m → e < 10 →
      Nat.toDigits 10 (10 * m + e) = Nat.toDigits 10 m ++ [Nat.digitChar e] := by
    intro m e hm he
    rw [← Nat.toDigits_append_toDigits (by decide) hm he, Nat.toDigits_of_lt_base he]
  have hd : d < 10000 := hd
  have hsplit : n * Base10000.base + d =
      10 * (10 * (10 * (10 * n + d / 1000) + d / 100 % 10) + d / 10 % 10) + d % 10 := by
    simp only [Base10000.base]
    omega
  rw [hsplit, hstep _ _ (by omega) (by omega), hstep _ _ (by omega) (by omega),
    hstep _ _ (by omega) (by omega), hstep _ _ hn (by omega)]
  simp [fourDigits]

/-- A numeral consists of the decimal digits of its number. -/
theorem ofNat_eq_toDigits (n : Nat) : ofNat n = Nat.toDigits 10 n := by
  induction n using Nat.strongRecOn with
  | _ n ih =>
    by_cases h : n < Base10000.base
    · simp [ofNat, Base10000.digits_of_lt h]
    · have hle : Base10000.base ≤ n := by omega
      have hpos : 0 < n / Base10000.base := Nat.div_pos hle (by decide)
      have hlt : n / Base10000.base < n :=
        Nat.div_lt_self (Nat.lt_of_lt_of_le (by decide) hle) (by decide)
      have hmod : n % Base10000.base < Base10000.base := Nat.mod_lt _ (by decide)
      have hstep : ofNat n = ofNat (n / Base10000.base) ++ fourDigits (n % Base10000.base) := by
        obtain ⟨d, ds, hds⟩ := List.exists_cons_of_ne_nil
          (Base10000.digits_ne_nil (n / Base10000.base))
        simp [ofNat, Base10000.digits_of_le hle, hds]
      rw [hstep, ih _ hlt, ← toDigits_concat hpos hmod, Nat.mul_comm, Nat.div_add_mod]

/-- Every digit of base 10000 but the first stands for four decimal digits. -/
theorem length_ofNat (n : Nat) : (ofNat n).length = length n := by
  unfold ofNat length
  split
  · rfl
  · rename_i first rest _
    have hfour : ∀ ds : List Nat, (ds.flatMap fourDigits).length = 4 * ds.length := by
      intro ds
      induction ds with
      | nil => rfl
      | cons d ds ih => rw [List.flatMap_cons, List.length_append, ih]; simp [fourDigits]; omega
    rw [List.length_append, hfour]
    rfl

/-- A numeral reads back. -/
@[simp] theorem toNat_ofNat (n : Nat) : toNat (ofNat n) = n := by
  rw [ofNat_eq_toDigits, toNat, Nat.ofDigitChars_toDigits (by decide) (by decide)]

/-- A number has at most so many digits just if it lies below that power of ten. -/
theorem length_le_iff {n k : Nat} (hk : 0 < k) : length n ≤ k ↔ n < 10 ^ k := by
  rw [← length_ofNat, ofNat_eq_toDigits, Nat.length_toDigits_le_iff (by decide) hk]

/-! ### What a numeral consists of -/

theorem ofNat_ne_nil (n : Nat) : ofNat n ≠ [] := by
  rw [ofNat_eq_toDigits]
  exact Nat.toDigits_ne_nil

theorem isDigit_of_mem_ofNat {n : Nat} {c : Char} (h : c ∈ ofNat n) : c.isDigit = true := by
  rw [ofNat_eq_toDigits] at h
  exact Nat.isDigit_of_mem_toDigits (by decide) (by decide) h

/-- Only the numeral of zero has a zero in front. -/
theorem eq_zero_of_head?_ofNat {n : Nat} (h : (ofNat n).head? = some '0') : n = 0 := by
  have hdigit : ∀ d < 10, Nat.digitChar d = '0' → d = 0 := by decide
  rw [ofNat_eq_toDigits] at h
  induction n using Nat.strongRecOn with
  | _ n ih =>
    by_cases hlt : n < 10
    · rw [Nat.toDigits_of_lt_base hlt] at h
      exact hdigit n hlt (Option.some.inj h)
    · have hle : 10 ≤ n := by omega
      -- The front of the numeral is that of the quotient, which is not zero.
      obtain ⟨c, cs, hcs⟩ :=
        List.exists_cons_of_ne_nil (Nat.toDigits_ne_nil (n := n / 10) (b := 10))
      rw [Nat.toDigits_of_base_le (by decide) hle, hcs, List.cons_append, List.head?_cons] at h
      have hquotient := ih (n / 10) (by omega) (by rw [hcs, List.head?_cons, h])
      omega

/-- Zeros in front of digits do not count. -/
theorem toNat_replicate_append (k : Nat) (ds : List Char) :
    toNat (List.replicate k '0' ++ ds) = toNat ds := by
  induction k with
  | zero => rfl
  | succ k ih =>
    rw [List.replicate_succ, List.cons_append, toNat, Nat.ofDigitChars_cons]
    exact ih

/-! ### The length of a numeral -/

theorem length_eq (n : Nat) : length n = (Nat.toDigits 10 n).length := by
  rw [← length_ofNat, ofNat_eq_toDigits]

theorem length_pos (n : Nat) : 0 < length n := by
  rw [length_eq]
  exact Nat.length_toDigits_pos

/-- The length of a numeral is the order of magnitude of its number. -/
theorem pow_length_bounds {n : Nat} (hn : n ≠ 0) :
    10 ^ (length n - 1) ≤ n ∧ n < 10 ^ length n := by
  refine ⟨?_, (length_le_iff (length_pos n)).1 (Nat.le_refl _)⟩
  rcases Nat.eq_zero_or_pos (length n - 1) with hzero | hpos
  · rw [hzero, Nat.pow_zero]
    exact Nat.one_le_iff_ne_zero.2 hn
  · refine Nat.le_of_not_lt fun hlt => ?_
    have hle := (length_le_iff hpos).2 hlt
    have := length_pos n
    omega

end Numeral

end NumericWire
