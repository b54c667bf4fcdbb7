/-!
# NumericWire.Base10000

Numbers in **base 10000**. One digit of this base stands for four decimal digits, which
is why the wire form uses it: a decimal point on a multiple of four decimal places falls
between two digits.

* `Base10000.digits` — the digits of a natural number, most significant first. The number
  is halved by length until single digits are left, so that even numbers of many thousand
  digits are split fast; `digits_of_lt` and `digits_of_le` say that the digits are those
  which repeated division by the base gives.
* `Base10000.ofDigits` — the natural number that a list of digits stands for.
* `Base10000.accumulate` — the same for integers of any size in the places of digits.
-/

namespace NumericWire

-- Powers are those of the core library, whatever else is imported.
attribute [local instance (2000)] instPowNat

namespace Base10000

/-- The base: one digit holds four decimal digits. -/
def base : Nat := 10000

/-- The decimal digits that one digit of this base holds. -/
def decimalsPerDigit : Nat := 4

/-- The largest digit. -/
def maxDigit : Nat := base - 1

/-! ### From digits to numbers -/

/-- The integer that the digits stand for, most significant first. Place value makes sense
for integers out of the range of a digit as well. -/
def accumulate (ds : List Int) : Int :=
  ds.foldl (fun value digit => value * base + digit) 0

/-- The natural number that the digits stand for, most significant first. -/
def ofDigits (ds : List Nat) : Nat :=
  ds.foldl (fun value digit => value * base + digit) 0

@[simp] theorem ofDigits_nil : ofDigits [] = 0 := rfl

/-- For digits that are natural numbers both readings agree. -/
theorem accumulate_map_ofNat (ds : List Nat) : accumulate (ds.map Int.ofNat) = ofDigits ds := by
  suffices h : ∀ v : Nat,
      (ds.map Int.ofNat).foldl (fun (value digit : Int) => value * base + digit) v =
        (ds.foldl (fun (value digit : Nat) => value * base + digit) v : Nat) from h 0
  induction ds with
  | nil => simp
  | cons d ds ih => intro v; simpa using ih (v * base + d)

/-- Putting a digit behind the others moves them up one place. -/
@[simp] theorem ofDigits_concat (ds : List Nat) (d : Nat) :
    ofDigits (ds ++ [d]) = ofDigits ds * base + d := by
  simp [ofDigits]

/-- Putting a digit before the others leaves them in their places. -/
theorem ofDigits_cons (d : Nat) (ds : List Nat) :
    ofDigits (d :: ds) = d * base ^ ds.length + ofDigits ds := by
  have hfold : ∀ (ds : List Nat) (v : Nat),
      ds.foldl (fun value digit => value * base + digit) v =
        v * base ^ ds.length + ds.foldl (fun value digit => value * base + digit) 0 := by
    intro ds
    induction ds with
    | nil => simp
    | cons e es ih =>
      intro v
      rw [List.foldl_cons, List.foldl_cons, ih, ih (0 * base + e), List.length_cons]
      grind
  have h := hfold ds d
  simpa [ofDigits] using h

/-- The value of two lists of digits behind each other. -/
theorem ofDigits_append (as bs : List Nat) :
    ofDigits (as ++ bs) = ofDigits as * base ^ bs.length + ofDigits bs := by
  induction as with
  | nil => simp
  | cons a as ih => rw [List.cons_append, ofDigits_cons, ih, ofDigits_cons]; grind

/-- So many digits stand for a number below that power of the base. -/
theorem ofDigits_lt {ds : List Nat} (h : ∀ d ∈ ds, d < base) :
    ofDigits ds < base ^ ds.length := by
  induction ds with
  | nil => simp
  | cons d ds ih =>
    have hd : d + 1 ≤ base := h d (by simp)
    have hrest := ih fun e he => h e (by simp [he])
    have hmul : (d + 1) * base ^ ds.length ≤ base * base ^ ds.length :=
      Nat.mul_le_mul_right _ hd
    rw [ofDigits_cons, List.length_cons, Nat.pow_succ]
    grind

/-- Digits stand for zero just if all of them are zero. -/
theorem ofDigits_eq_zero_iff {ds : List Nat} : ofDigits ds = 0 ↔ ∀ d ∈ ds, d = 0 := by
  induction ds with
  | nil => simp
  | cons d ds ih =>
    have hpow : base ^ ds.length ≠ 0 := Nat.ne_of_gt (Nat.pow_pos (by decide))
    rw [ofDigits_cons, Nat.add_eq_zero_iff, Nat.mul_eq_zero, ih, List.forall_mem_cons]
    simp only [hpow, or_false]

@[simp] theorem ofDigits_replicate_zero (j : Nat) : ofDigits (List.replicate j 0) = 0 :=
  ofDigits_eq_zero_iff.2 fun _ hd => List.eq_of_mem_replicate hd

/-- Zeros in front do not count. -/
theorem ofDigits_replicate_append (j : Nat) (ds : List Nat) :
    ofDigits (List.replicate j 0 ++ ds) = ofDigits ds := by
  rw [ofDigits_append, ofDigits_replicate_zero, Nat.zero_mul, Nat.zero_add]

/-- Equally many digits that stand for the same number are the same. -/
theorem eq_of_ofDigits_eq {as bs : List Nat} (hlen : as.length = bs.length)
    (ha : ∀ d ∈ as, d < base) (hb : ∀ d ∈ bs, d < base) (h : ofDigits as = ofDigits bs) :
    as = bs := by
  induction as generalizing bs with
  | nil => exact (List.length_eq_zero_iff.1 hlen.symm).symm
  | cons a as ih =>
    cases bs with
    | nil => simp at hlen
    | cons b bs =>
      have hlen : as.length = bs.length := by simpa using hlen
      have ha' : ∀ d ∈ as, d < base := fun d hd => ha d (by simp [hd])
      have hb' : ∀ d ∈ bs, d < base := fun d hd => hb d (by simp [hd])
      have hlt := ofDigits_lt ha'
      have hlt' := ofDigits_lt hb'
      rw [ofDigits_cons, ofDigits_cons, hlen] at h
      rw [hlen] at hlt
      have hhead : a = b := by
        have hq := congrArg (· / base ^ bs.length) h
        simpa [Nat.mul_add_div (Nat.lt_of_le_of_lt (Nat.zero_le _) hlt), Nat.mul_comm _ (base ^ _),
          Nat.div_eq_of_lt hlt, Nat.div_eq_of_lt hlt'] using hq
      rw [hhead] at h
      rw [hhead, ih hlen ha' hb' (Nat.add_left_cancel h)]

/-! ### From numbers to digits -/

/-- The power of the base that `2 ^ k` digits reach up to. -/
def span (k : Nat) : Nat := base ^ (2 ^ k : Nat)

/-- The lowest `2 ^ k` digits of a number, zeros in front included. -/
def fixedDigits : Nat → Nat → List Nat
  | 0, n => [n]
  | k + 1, n => fixedDigits k (n / span k) ++ fixedDigits k (n % span k)

/-- A level at which all digits of a number are among the fixed ones: one digit takes more
than 13 bits. -/
def level (n : Nat) : Nat := (n.log2 / 13 + 1).log2 + 1

/-- The digits without the zeros at their front; if there are only zeros, one is left. -/
def stripZeros (ds : List Nat) : List Nat :=
  match ds.dropWhile (· == 0) with
  | [] => [0]
  | rest => rest

/-- The digits of a number, most significant first. Zero has the one digit 0; any other
number starts with a nonzero digit. -/
def digits (n : Nat) : List Nat := stripZeros (fixedDigits (level n) n)

theorem span_pos (k : Nat) : 0 < span k := Nat.pow_pos (by decide)

/-- Twice as many digits reach up to the square. -/
theorem span_succ (k : Nat) : span (k + 1) = span k * span k := by
  rw [span, span, Nat.pow_succ, Nat.mul_two, Nat.pow_add]

theorem lt_span_level (n : Nat) : n < span (level n) := by
  have hbits : n < 2 ^ (n.log2 + 1) := Nat.lt_log2_self
  have hcount : n.log2 / 13 + 1 < 2 ^ level n := Nat.lt_log2_self
  calc n < 2 ^ (n.log2 + 1) := hbits
    _ ≤ 2 ^ (13 * (n.log2 / 13 + 1)) := Nat.pow_le_pow_right (by omega) (by omega)
    _ = (2 ^ 13) ^ (n.log2 / 13 + 1) := by rw [Nat.pow_mul]
    _ ≤ base ^ (n.log2 / 13 + 1) := Nat.pow_le_pow_left (by decide) _
    _ ≤ span (level n) := Nat.pow_le_pow_right (by decide) (by omega)

theorem length_fixedDigits (k n : Nat) : (fixedDigits k n).length = 2 ^ k := by
  induction k generalizing n with
  | zero => rfl
  | succ k ih => rw [fixedDigits, List.length_append, ih, ih, Nat.pow_succ]; omega

/-- Splitting by length keeps both halves small enough. -/
theorem halves_lt {k n : Nat} (h : n < span (k + 1)) :
    n / span k < span k ∧ n % span k < span k := by
  refine ⟨?_, Nat.mod_lt _ (span_pos k)⟩
  rw [Nat.div_lt_iff_lt_mul (span_pos k), ← span_succ]
  exact h

theorem fixedDigits_lt {k n : Nat} (h : n < span k) : ∀ d ∈ fixedDigits k n, d < base := by
  induction k generalizing n with
  | zero => simpa [fixedDigits, span] using h
  | succ k ih =>
    intro d hd
    rw [fixedDigits, List.mem_append] at hd
    exact hd.elim (ih (halves_lt h).1 d) (ih (halves_lt h).2 d)

theorem ofDigits_fixedDigits (k n : Nat) : ofDigits (fixedDigits k n) = n := by
  induction k generalizing n with
  | zero => simp [fixedDigits, ofDigits]
  | succ k ih =>
    rw [fixedDigits, ofDigits_append, ih, ih, length_fixedDigits, Nat.mul_comm]
    exact Nat.div_add_mod n (span k)

/-- Zeros in front do not count. -/
theorem ofDigits_dropWhile (ds : List Nat) : ofDigits (ds.dropWhile (· == 0)) = ofDigits ds := by
  induction ds with
  | nil => rfl
  | cons d ds ih =>
    by_cases hd : d = 0
    · simp [hd, ih, ofDigits_cons]
    · simp [hd]

/-- Whether the first of some digits is one that counts, or there is only one. -/
def IsReduced (ds : List Nat) : Prop := ds = [0] ∨ (ds ≠ [] ∧ ds.head? ≠ some 0)

theorem isReduced_stripZeros (ds : List Nat) : IsReduced (stripZeros ds) := by
  unfold stripZeros
  split
  · exact .inl rfl
  · rename_i rest hne
    refine .inr ⟨hne, fun h => ?_⟩
    have := List.head?_dropWhile_not (· == 0) ds
    simp_all

theorem mem_stripZeros {ds : List Nat} (h : ∀ d ∈ ds, d < base) :
    ∀ d ∈ stripZeros ds, d < base := by
  intro d hd
  unfold stripZeros at hd
  split at hd
  · simp only [List.mem_singleton] at hd
    rw [hd]
    decide
  · exact h d ((List.dropWhile_sublist _).mem hd)

theorem ofDigits_stripZeros (ds : List Nat) : ofDigits (stripZeros ds) = ofDigits ds := by
  rw [← ofDigits_dropWhile ds]
  unfold stripZeros
  split
  · rename_i h; rw [h]; rfl
  · rfl

/-- The digits stand for the number. -/
@[simp] theorem ofDigits_digits (n : Nat) : ofDigits (digits n) = n := by
  rw [digits, ofDigits_stripZeros, ofDigits_fixedDigits]

/-- Every digit is in range. -/
theorem digits_lt (n : Nat) : ∀ d ∈ digits n, d < base :=
  mem_stripZeros (fixedDigits_lt (lt_span_level n))

theorem isReduced_digits (n : Nat) : IsReduced (digits n) := isReduced_stripZeros _

theorem digits_ne_nil (n : Nat) : digits n ≠ [] := by
  rcases isReduced_digits n with h | h
  · simp [h]
  · exact h.1

/-- The first digit of a number other than zero counts. -/
theorem head?_digits_ne_zero {n : Nat} (hn : n ≠ 0) : (digits n).head? ≠ some 0 := by
  rcases isReduced_digits n with h | h
  · have hvalue := ofDigits_digits n
    rw [h] at hvalue
    exact absurd hvalue.symm hn
  · exact h.2

/-- A number with a first digit that counts is at least the power of the base that the
first place stands for. -/
theorem base_pow_le_ofDigits {d : Nat} (ds : List Nat) (h : d ≠ 0) :
    base ^ ds.length ≤ ofDigits (d :: ds) := by
  have := Nat.mul_le_mul_right (base ^ ds.length) (Nat.one_le_iff_ne_zero.2 h)
  rw [ofDigits_cons]
  omega

/-- Reduced digits in range are determined by the number they stand for. -/
theorem eq_of_isReduced {as bs : List Nat} (ha : IsReduced as) (hb : IsReduced bs)
    (hac : ∀ d ∈ as, d < base) (hbc : ∀ d ∈ bs, d < base) (h : ofDigits as = ofDigits bs) :
    as = bs := by
  have hpos : ∀ {cs : List Nat}, IsReduced cs → (cs = [0] ∨ ∃ d ds, cs = d :: ds ∧ d ≠ 0) := by
    rintro (_ | ⟨c, cs⟩) (hc | hc)
    · simp at hc
    · simp at hc
    · exact .inl hc
    · exact .inr ⟨c, cs, rfl, by simpa using hc⟩
  have hlow : ∀ {d : Nat} (ds : List Nat), d ≠ 0 → 0 < ofDigits (d :: ds) := fun ds hd =>
    Nat.lt_of_lt_of_le (Nat.pow_pos (by decide)) (base_pow_le_ofDigits ds hd)
  have hzero : ofDigits [0] = 0 := rfl
  rcases hpos ha with rfl | ⟨a, as, rfl, hane⟩ <;> rcases hpos hb with rfl | ⟨b, bs, rfl, hbne⟩
  · rfl
  · have := hlow bs hbne; omega
  · have := hlow as hane; omega
  · have hlen : ∀ {x y : Nat} {xs ys : List Nat}, y ≠ 0 → (∀ d ∈ x :: xs, d < base) →
        ofDigits (x :: xs) = ofDigits (y :: ys) → ys.length ≤ xs.length := by
      intro x y xs ys hy hx hxy
      have hlt := ofDigits_lt hx
      have hle := base_pow_le_ofDigits ys hy
      rw [hxy, List.length_cons] at hlt
      exact Nat.le_of_lt_succ
        ((Nat.pow_lt_pow_iff_right (by decide : 1 < base)).1 (Nat.lt_of_le_of_lt hle hlt))
    refine eq_of_ofDigits_eq ?_ hac hbc h
    simpa using Nat.le_antisymm (hlen hane hbc h.symm) (hlen hbne hac h)

/-- Reduced digits in range are the digits of the number they stand for. -/
theorem digits_ofDigits {ds : List Nat} (hr : IsReduced ds) (hc : ∀ d ∈ ds, d < base) :
    digits (ofDigits ds) = ds :=
  eq_of_isReduced (isReduced_digits _) hr (digits_lt _) hc (ofDigits_digits _)

/-- A number below the base is its own only digit. -/
theorem digits_of_lt {n : Nat} (h : n < base) : digits n = [n] := by
  have hvalue : ofDigits [n] = n := by simp [ofDigits]
  have hr : IsReduced [n] := by
    by_cases hn : n = 0
    · exact .inl (by rw [hn])
    · exact .inr (by simpa using hn)
  simpa [hvalue] using digits_ofDigits hr (by simpa using h)

/-- The lowest digit stands last, behind the digits of the quotient. -/
theorem digits_of_le {n : Nat} (h : base ≤ n) :
    digits n = digits (n / base) ++ [n % base] := by
  have hvalue : ofDigits (digits (n / base) ++ [n % base]) = n := by
    rw [ofDigits_concat, ofDigits_digits, Nat.mul_comm]
    exact Nat.div_add_mod n base
  have hq : 0 < n / base := Nat.div_pos h (by decide)
  have hr : IsReduced (digits (n / base) ++ [n % base]) := by
    have hhead := head?_digits_ne_zero (Nat.ne_of_gt hq)
    obtain ⟨d, ds, hds⟩ := List.exists_cons_of_ne_nil (digits_ne_nil (n / base))
    rw [hds] at hhead
    exact .inr ⟨by simp, by simpa [hds] using hhead⟩
  have hc : ∀ d ∈ digits (n / base) ++ [n % base], d < base := by
    intro d hd
    rcases List.mem_append.1 hd with hd | hd
    · exact digits_lt _ d hd
    · rw [List.mem_singleton.1 hd]
      exact Nat.mod_lt _ (by decide)
  simpa [hvalue] using digits_ofDigits hr hc

end Base10000

end NumericWire
