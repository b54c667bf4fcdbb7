import NumericWire.Numeric.Value
/-!
# NumericWire.Proofs.PlaceValue

**What digits and a weight determine.** The value of base-10000 digits is a sum over the
places, zeros at either end add nothing to it, and a first digit that is not zero fixes its
order of magnitude. From these, two facts carry the theory of wire values:

* `place_eq` — digits of the same value that both start with a digit that is not zero start
  at the same place;
* `eq_of_isTrimmed` — of all digits with the same value and first place, there is just one
  list that reaches the point and has no zero at its end behind the point (`IsTrimmed`).

Such digits also have just as many places behind the point as their value needs
(`isLeast_places`).
-/

namespace NumericWire

namespace Base10000

theorem base_cast_pos : (0 : ℚ) < base := by norm_num [base]

theorem one_lt_base_cast : (1 : ℚ) < base := by norm_num [base]

/-- A digit of this base stands for four decimal digits. -/
theorem base_pow_eq (k : ℕ) : (base : ℚ) ^ k = 10 ^ (4 * k) := by
  rw [pow_mul]
  norm_num [base]

theorem base_zpow_eq (k : ℤ) : (base : ℚ) ^ k = 10 ^ (4 * k) := by
  rw [zpow_mul]
  norm_num [base]

/-! ### The value as a sum -/

theorem placeValue_eq_sum (place : ℤ) (ds : List ℕ) :
    placeValue place ds = ∑ i : Fin ds.length, (ds[i] : ℚ) * (base : ℚ) ^ (place - (i : ℤ)) := by
  induction ds generalizing place with
  | nil => simp
  | cons d ds ih =>
      have hplace : ∀ i : Fin ds.length, place - 1 - (i : ℤ) = place - ((i : ℤ) + 1) := by
        intro i
        ring
      have hsum := Fin.sum_univ_succ fun i : Fin (ds.length + 1) =>
        ((d :: ds)[i] : ℚ) * (base : ℚ) ^ (place - (i : ℤ))
      rw [placeValue_cons, ih]
      refine Eq.trans ?_ hsum.symm
      simp [hplace]

theorem placeValue_nonneg (place : ℤ) (ds : List ℕ) : 0 ≤ placeValue place ds := by
  rw [placeValue_eq_sum]
  exact Finset.sum_nonneg fun i _ =>
    mul_nonneg (Nat.cast_nonneg _) (zpow_pos base_cast_pos _).le

/-! ### Zeros at either end -/

/-- The digits behind others count from a lower place. -/
theorem placeValue_append (place : ℤ) (as bs : List ℕ) :
    placeValue place (as ++ bs) = placeValue place as + placeValue (place - as.length) bs := by
  induction as generalizing place with
  | nil => simp
  | cons a as ih =>
      have hrest : place - 1 - (as.length : ℤ) = place - ((a :: as).length : ℤ) := by
        rw [List.length_cons]
        push_cast
        ring
      rw [List.cons_append, placeValue_cons, placeValue_cons, ih, hrest, add_assoc]

@[simp] theorem placeValue_replicate_zero (place : ℤ) (k : ℕ) :
    placeValue place (List.replicate k 0) = 0 := by
  induction k generalizing place with
  | zero => rfl
  | succ k ih => rw [List.replicate_succ, placeValue_cons, ih]; simp

/-- Zeros at the end add nothing. -/
@[simp] theorem placeValue_append_zeros (place : ℤ) (ds : List ℕ) (k : ℕ) :
    placeValue place (ds ++ List.replicate k 0) = placeValue place ds := by
  rw [placeValue_append, placeValue_replicate_zero, add_zero]

/-- How many zeros stand in front of the first digit that is not zero. -/
def leadingZeros (ds : List ℕ) : ℕ := (ds.takeWhile (· == 0)).length

theorem leadingZeros_add_length (ds : List ℕ) :
    leadingZeros ds + (ds.dropWhile (· == 0)).length = ds.length := by
  rw [leadingZeros, ← List.length_append, List.takeWhile_append_dropWhile]

/-- Zeros in front add nothing, but the digits behind them start lower. -/
theorem placeValue_dropWhile (place : ℤ) (ds : List ℕ) :
    placeValue (place - leadingZeros ds) (ds.dropWhile (· == 0)) = placeValue place ds := by
  induction ds generalizing place with
  | nil => rfl
  | cons d ds ih =>
      by_cases hd : d = 0
      · have hplace : place - (leadingZeros (d :: ds) : ℤ) = place - 1 - leadingZeros ds := by
          simp only [leadingZeros, hd, List.takeWhile_cons, beq_self_eq_true, if_true,
            List.length_cons]
          push_cast
          ring
        rw [hplace, hd, placeValue_cons, ← ih]
        simp
      · simp [leadingZeros, hd]

/-! ### The order of magnitude -/

/-- A first digit that is not zero puts the value at or above its place. -/
theorem base_zpow_le_placeValue {place : ℤ} {d : ℕ} {ds : List ℕ} (hd : d ≠ 0) :
    (base : ℚ) ^ place ≤ placeValue place (d :: ds) := by
  have hpow : (0 : ℚ) < (base : ℚ) ^ place := zpow_pos base_cast_pos _
  have hone : (1 : ℚ) ≤ d := by exact_mod_cast Nat.one_le_iff_ne_zero.mpr hd
  have hrest := placeValue_nonneg (place - 1) ds
  have hfirst := mul_le_mul_of_nonneg_right hone hpow.le
  rw [placeValue_cons]
  linarith

/-- Digits in range stay below the place in front of the first. -/
theorem placeValue_lt (place : ℤ) {ds : List ℕ} (h : ∀ d ∈ ds, d < base) :
    placeValue place ds < (base : ℚ) ^ (place + 1) := by
  induction ds generalizing place with
  | nil => exact zpow_pos base_cast_pos _
  | cons d ds ih =>
      have hpow : (0 : ℚ) < (base : ℚ) ^ place := zpow_pos base_cast_pos _
      have hd : (d : ℚ) + 1 ≤ base := by exact_mod_cast h d (by simp)
      have hrest : placeValue (place - 1) ds < (base : ℚ) ^ place := by
        simpa using ih (place - 1) fun e he => h e (by simp [he])
      -- The digits behind the first add less than one more of the first would.
      have hmore := mul_le_mul_of_nonneg_right hd hpow.le
      rw [placeValue_cons, zpow_add_one₀ base_cast_ne_zero]
      linarith

/-- Two powers of the base next below the same value are the same. -/
theorem zpow_unique {a b : ℤ} {v : ℚ} (ha : (base : ℚ) ^ a ≤ v) (ha' : v < (base : ℚ) ^ (a + 1))
    (hb : (base : ℚ) ^ b ≤ v) (hb' : v < (base : ℚ) ^ (b + 1)) : a = b := by
  have hab := (zpow_lt_zpow_iff_right₀ one_lt_base_cast).mp (lt_of_le_of_lt ha hb')
  have hba := (zpow_lt_zpow_iff_right₀ one_lt_base_cast).mp (lt_of_le_of_lt hb ha')
  omega

/-- Whether there is a first digit and it is not zero. -/
def HasLead (ds : List ℕ) : Prop := ∃ d, ds.head? = some d ∧ d ≠ 0

theorem HasLead.ne_nil {ds : List ℕ} (h : HasLead ds) : ds ≠ [] := by
  rintro rfl
  obtain ⟨d, hd, -⟩ := h
  simp at hd

theorem hasLead_digits {n : ℕ} (hn : n ≠ 0) : HasLead (digits n) := by
  have hhead := head?_digits_ne_zero hn
  obtain ⟨d, ds, hds⟩ := List.exists_cons_of_ne_nil (digits_ne_nil n)
  rw [hds] at hhead
  exact ⟨d, by rw [hds]; rfl, by simpa using hhead⟩

/-- Behind the zeros in front there is a digit that is not zero, if there is one at all. -/
theorem hasLead_dropWhile {ds : List ℕ} (h : ∃ d ∈ ds, d ≠ 0) :
    HasLead (ds.dropWhile (· == 0)) := by
  obtain ⟨d, hd, hne⟩ := h
  have hnil : ds.dropWhile (· == 0) ≠ [] := fun hnil => by
    have := List.dropWhile_eq_nil_iff.mp hnil d hd
    exact hne (by simpa using this)
  obtain ⟨e, es, hes⟩ := List.exists_cons_of_ne_nil hnil
  have hhead := List.head?_dropWhile_not (· == 0) ds
  rw [hes] at hhead ⊢
  exact ⟨e, rfl, by simpa using hhead⟩

/-- The order of magnitude of digits with a lead is the place of their first. -/
theorem HasLead.bounds (place : ℤ) {ds : List ℕ} (hlead : HasLead ds)
    (hds : ∀ d ∈ ds, d < base) :
    (base : ℚ) ^ place ≤ placeValue place ds ∧ placeValue place ds < (base : ℚ) ^ (place + 1) := by
  refine ⟨?_, placeValue_lt place hds⟩
  obtain ⟨d, hd, hne⟩ := hlead
  cases ds with
  | nil => simp at hd
  | cons e ds =>
      obtain rfl : e = d := by simpa using hd
      exact base_zpow_le_placeValue hne

/-- **Digits with a lead start where their value says.** -/
theorem place_eq {a b : ℤ} {as bs : List ℕ} (ha : HasLead as) (hb : HasLead bs)
    (has : ∀ d ∈ as, d < base) (hbs : ∀ d ∈ bs, d < base)
    (h : placeValue a as = placeValue b bs) : a = b := by
  obtain ⟨hlow, hhigh⟩ := ha.bounds a has
  obtain ⟨hlow', hhigh'⟩ := hb.bounds b hbs
  rw [← h] at hlow' hhigh'
  exact zpow_unique hlow hhigh hlow' hhigh'

/-! ### Trimmed digits -/

/-- Whether digits from a place down reach the point, and go beyond it only as far as there
are digits that are not zero. -/
structure IsTrimmed (place : ℤ) (ds : List ℕ) : Prop where
  /-- Every digit in front of the point is there. -/
  reach : place + 1 ≤ ds.length
  /-- No zero stands at the end behind the point. -/
  last : max (place + 1) 0 < ds.length → ds.getLast? ≠ some 0

/-- Of two lists of digits with the same value and first place, the longer one is the other
with zeros behind it. -/
theorem eq_append_zeros {place : ℤ} {as bs : List ℕ} (hlen : as.length ≤ bs.length)
    (has : ∀ d ∈ as, d < base) (hbs : ∀ d ∈ bs, d < base)
    (h : placeValue place as = placeValue place bs) :
    bs = as ++ List.replicate (bs.length - as.length) 0 := by
  have hzeros : ∀ d ∈ as ++ List.replicate (bs.length - as.length) 0, d < base := by
    intro d hd
    rcases List.mem_append.mp hd with hd | hd
    · exact has d hd
    · rw [List.eq_of_mem_replicate hd]
      decide
  have hlen' : bs.length = (as ++ List.replicate (bs.length - as.length) 0).length := by
    simp [hlen]
  have hvalue : placeValue place bs =
      placeValue place (as ++ List.replicate (bs.length - as.length) 0) := by simp [h]
  refine eq_of_ofDigits_eq hlen' hbs hzeros ?_
  rw [placeValue_eq, placeValue_eq, ← hlen'] at hvalue
  have hpow : (base : ℚ) ^ (place - bs.length + 1) ≠ 0 := zpow_ne_zero _ base_cast_ne_zero
  exact_mod_cast mul_right_cancel₀ hpow hvalue

/-- **Trimmed digits are determined by their value and first place**: digits that one list
has beyond the other are zeros, and they would stand at the end behind the point. -/
theorem eq_of_isTrimmed {place : ℤ} {as bs : List ℕ} (ha : IsTrimmed place as)
    (hb : IsTrimmed place bs)
    (has : ∀ d ∈ as, d < base) (hbs : ∀ d ∈ bs, d < base)
    (h : placeValue place as = placeValue place bs) : as = bs := by
  wlog hlen : as.length ≤ bs.length generalizing as bs
  · exact (this hb ha hbs has h.symm (by omega)).symm
  have heq := eq_append_zeros hlen has hbs h
  rcases Nat.eq_zero_or_pos (bs.length - as.length) with hzero | hpos
  · rw [heq, hzero, List.replicate_zero, List.append_nil]
  · have hlonger : max (place + 1) 0 < (bs.length : ℤ) := by
      have := ha.reach
      omega
    -- The last digit of the longer list is one of the zeros behind the other.
    refine absurd ?_ (hb.last hlonger)
    rw [heq, List.getLast?_append, List.getLast?_replicate, if_neg (by omega)]
    rfl

/-! ### Places behind the point -/

/-- The numbers of base-10000 digits behind the point that a value gets by with: moved up by
so many places it is an integer. -/
def places (v : ℚ) : Set ℕ := {k | ∃ m : ℤ, v * 10 ^ (4 * k) = m}

theorem mem_places {v : ℚ} {k : ℕ} : k ∈ places v ↔ ∃ m : ℤ, v * (base : ℚ) ^ k = m := by
  rw [base_pow_eq]
  rfl

@[simp] theorem places_neg (v : ℚ) : places (-v) = places v := by
  ext k
  rw [mem_places, mem_places, neg_mul]
  constructor
  · rintro ⟨m, hm⟩
    exact ⟨-m, by rw [Int.cast_neg, ← hm, neg_neg]⟩
  · rintro ⟨m, hm⟩
    exact ⟨-m, by rw [Int.cast_neg, hm]⟩

@[simp] theorem places_abs (v : ℚ) : places |v| = places v := by
  rcases abs_choice v with h | h
  · rw [h]
  · rw [h, places_neg]

/-- Moved up by the places behind the point, digits are the integer that they stand for. -/
theorem placeValue_mul_base_pow {place : ℤ} {ds : List ℕ} {k : ℕ}
    (hk : (k : ℤ) = ds.length - 1 - place) :
    placeValue place ds * (base : ℚ) ^ k = ofDigits ds := by
  have hcancel : place - (ds.length : ℤ) + 1 + k = 0 := by omega
  rw [placeValue_eq, mul_assoc, ← zpow_natCast, ← zpow_add₀ base_cast_ne_zero, hcancel, zpow_zero,
    mul_one]

/-- A multiple of the base ends in a zero. -/
theorem getLast?_of_base_dvd {ds : List ℕ} (hne : ds ≠ []) (hds : ∀ d ∈ ds, d < base)
    (h : base ∣ ofDigits ds) : ds.getLast? = some 0 := by
  rcases List.eq_nil_or_concat ds with hnil | ⟨front, d, rfl⟩
  · exact absurd hnil hne
  · have hd : d < base := hds d (by simp)
    rw [List.concat_eq_append, ofDigits_concat] at h
    obtain rfl := Nat.eq_zero_of_dvd_of_lt ((Nat.dvd_add_right (Nat.dvd_mul_left _ _)).mp h) hd
    simp

/-- **Trimmed digits have as many places behind the point as their value needs.** With fewer
places the value would be an integer although the last digit is not zero. -/
theorem isLeast_places {place : ℤ} {ds : List ℕ} {k : ℕ} (hk : (k : ℤ) = ds.length - 1 - place)
    (hne : ds ≠ []) (htrim : IsTrimmed place ds) (hds : ∀ d ∈ ds, d < base) :
    IsLeast (places (placeValue place ds)) k := by
  have hvalue := placeValue_mul_base_pow hk
  refine ⟨mem_places.mpr ⟨ofDigits ds, by rw [hvalue]; norm_cast⟩, ?_⟩
  intro j hj
  obtain ⟨m, hm⟩ := mem_places.mp hj
  by_contra hlt
  -- What is an integer with fewer places is a multiple of the base with all of them.
  have hsplit : (ofDigits ds : ℚ) = m * (base : ℚ) ^ (k - j) := by
    rw [← hvalue, ← hm, mul_assoc, ← pow_add]
    congr 2
    omega
  have hdvd : base ∣ ofDigits ds := by
    have hint : (ofDigits ds : ℤ) = m * (base : ℤ) ^ (k - j) := by exact_mod_cast hsplit
    rw [← Int.natCast_dvd_natCast, hint]
    exact dvd_mul_of_dvd_right (dvd_pow_self _ (by omega)) _
  have hlen : 0 < ds.length := List.length_pos_iff.mpr hne
  exact htrim.last (by omega) (getLast?_of_base_dvd hne hds hdvd)

end Base10000

end NumericWire
