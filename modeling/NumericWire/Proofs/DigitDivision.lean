import NumericWire.Base10000.Reader
/-!
# NumericWire.Proofs.DigitDivision

**Splitting a number into digits and accumulating digits undo each other.** A reader splits a
number by repeated division: each read takes off the remainder and goes on with the quotient,
until that is zero. Such reads come to the digits that are found by halving the number
(`readAll_reading`), so draining a reader is reading it up to the end, and the check of the
single digits never fails (`readAll_eq_drain`).

A number has as many digits as its order of magnitude says (`length_digits_bounds`). Digits that
start with one that counts are found again in the number that they stand for; zeros in front of
them are not (`digits_ofDigits_replicate_append`).
-/

namespace NumericWire

-- Powers are those of the core library, whatever else is imported.
attribute [local instance (2000)] instPowNat

namespace Base10000

/-! ### Digits and orders of magnitude -/

/-- Least significant first, the remainder comes before the digits of the quotient. -/
theorem reverse_digits_of_le {n : Nat} (h : base ≤ n) :
    (digits n).reverse = n % base :: (digits (n / base)).reverse := by
  rw [digits_of_le h, List.reverse_append]
  rfl

/-- **The number of digits is the order of magnitude.** -/
theorem length_digits_bounds {n : Nat} (hn : n ≠ 0) :
    base ^ ((digits n).length - 1) ≤ n ∧ n < base ^ (digits n).length := by
  have hvalue := ofDigits_digits n
  have hhead := head?_digits_ne_zero hn
  have hhigh := ofDigits_lt (digits_lt n)
  rw [hvalue] at hhigh
  refine ⟨?_, hhigh⟩
  obtain ⟨d, ds, hds⟩ := List.exists_cons_of_ne_nil (digits_ne_nil n)
  rw [hds] at hvalue hhead
  have hd : d ≠ 0 := by simpa using hhead
  calc base ^ ((digits n).length - 1) = base ^ ds.length := by
        rw [hds, List.length_cons, Nat.add_sub_cancel]
    _ ≤ ofDigits (d :: ds) := base_pow_le_ofDigits ds hd
    _ = n := hvalue

/-- Of digits with zeros in front, those behind the zeros are found again. -/
theorem digits_ofDigits_replicate_append {ds : List Nat} (j : Nat) (hr : IsReduced ds)
    (hc : ∀ d ∈ ds, d < base) : digits (ofDigits (List.replicate j 0 ++ ds)) = ds := by
  rw [ofDigits_replicate_append, digits_ofDigits hr hc]

/-! ### Repeated division -/

namespace Reader

/-- **Single reads come to the digits of a number**, least significant first: the last one is
below the base, and each of the others is a remainder. -/
theorem readAll_reading (q : Nat) : (reading q).readAll = .ok (digits q).reverse := by
  induction q using Nat.strongRecOn with
  | _ q ih =>
      rcases Nat.lt_or_ge q base with hlt | hle
      · rw [readAll_of_next (next_reading_of_lt hlt) hlt, readAll_exhausted, digits_of_lt hlt]
        rfl
      · have hmod : q % base < base := Nat.mod_lt q (by decide)
        have hquotient : q / base < q :=
          Nat.div_lt_self (Nat.lt_of_lt_of_le (by decide) hle) (by decide)
        rw [readAll_of_next (next_reading_of_le hle) hmod, ih _ hquotient,
          reverse_digits_of_le hle]
        rfl

/-- **Draining a reader is reading it up to the end**, and no digit is refused on the way. -/
theorem readAll_eq_drain (r : Reader) : r.readAll = r.drain.1.mapError .negative := by
  cases r with
  | refusing value => exact readAll_refusing value
  | reading q => exact readAll_reading q
  | exhausted => exact readAll_exhausted

end Reader

/-! ### Splitting and accumulating -/

/-- **Splitting and accumulating undo each other.** -/
theorem splitting_accumulating :
    -- A number is split up to the end, by single reads or at once, and no digit is refused.
    (∀ n : Nat, ∃ ds : List Nat, (Reader.ofInt n).readAll = .ok ds ∧
      (Reader.ofInt n).drain = (.ok ds, .exhausted) ∧
      -- There is a digit, all are in range, and as many as needed: the most significant counts.
      1 ≤ ds.length ∧ (∀ d ∈ ds, d ≤ 9999) ∧ (n = 0 → ds = [0]) ∧
      (n ≠ 0 → ds.getLast? ≠ some 0 ∧ 10000 ^ (ds.length - 1) ≤ n ∧ n < 10000 ^ ds.length) ∧
      accumulate (ds.reverse.map Int.ofNat) = n) ∧
    -- What digits accumulate to is split into them, but for zeros in front.
    (∀ (ds : List Nat) (j : Nat), IsReduced ds → (∀ d ∈ ds, d ≤ 9999) →
      ∃ es : List Nat,
        (Reader.ofInt (accumulate ((List.replicate j 0 ++ ds).map Int.ofNat))).readAll = .ok es ∧
        (Reader.ofInt (accumulate ((List.replicate j 0 ++ ds).map Int.ofNat))).drain =
          (.ok es, .exhausted) ∧
        es.reverse = ds) := by
  have hdrain : ∀ n : Nat, (Reader.ofInt n).drain = (.ok (digits n).reverse, .exhausted) := by
    intro n
    rw [Reader.ofInt_natCast]
    rfl
  have hread : ∀ n : Nat, (Reader.ofInt n).readAll = .ok (digits n).reverse := by
    intro n
    rw [Reader.readAll_eq_drain, hdrain]
    rfl
  constructor
  · intro n
    refine ⟨(digits n).reverse, hread n, hdrain n, ?_, ?_, ?_, ?_, ?_⟩
    · rw [List.length_reverse]
      exact List.length_pos_iff.2 (digits_ne_nil n)
    · intro d hd
      exact Nat.le_pred_of_lt (digits_lt n d (List.mem_reverse.1 hd))
    · intro hn
      rw [hn]
      rfl
    · intro hn
      rw [List.getLast?_reverse, List.length_reverse]
      exact ⟨head?_digits_ne_zero hn, length_digits_bounds hn⟩
    · rw [List.reverse_reverse, accumulate_map_ofNat, ofDigits_digits]
  · intro ds j hr hc
    have hdigits := digits_ofDigits_replicate_append j hr fun d hd => Nat.lt_succ_of_le (hc d hd)
    refine ⟨ds.reverse, ?_, ?_, List.reverse_reverse ds⟩
    · rw [accumulate_map_ofNat, hread, hdigits]
    · rw [accumulate_map_ofNat, hdrain, hdigits]

/-- Zero has a digit; a zero between other digits is kept, and zeros in front of them are not. -/
theorem splitting_accumulating_zeros :
    (Reader.ofInt 0).readAll = .ok [0] ∧
      (Reader.ofInt (accumulate [0, 0, 7, 0, 1])).readAll = .ok [1, 0, 7] := by
  obtain ⟨hsplit, haccumulate⟩ := splitting_accumulating
  obtain ⟨ds, hread, -, -, -, hzero, -⟩ := hsplit 0
  obtain ⟨es, hback, -, hes⟩ :=
    haccumulate [7, 0, 1] 2 (.inr ⟨by decide, by decide⟩) (by decide)
  constructor
  · rw [hzero rfl] at hread
    exact hread
  · obtain rfl : es = [1, 0, 7] := List.reverse_inj.1 hes
    exact hback

end Base10000

end NumericWire
