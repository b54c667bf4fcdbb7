import NumericWire.Proofs.FrameOfDecimal
/-!
# NumericWire.Proofs.FrameEquality

**Which values have the same frame.** Sign, weight and digits of a canonical form are those of
the value, and the scale is that of the decimal (`IsCanonicalFor.value_eq_iff`,
`IsCanonicalFor.eq_iff`). So frames tell different values apart, and equal ones by the decimal
places that they were written with: numbers whose frames differ in no other word than the scale
are equal.
-/

namespace NumericWire

/-- Whether two quantities are the same but for what no frame says: whether not-a-number
signals, sign and exponent of a zero, and how another decimal divides up into coefficient and
exponent where this leaves value and decimal places alone. -/
def Quantity.Agree (q q' : Quantity) : Prop :=
  (∃ s s', q = .nan s ∧ q' = .nan s') ∨
    ∃ x y, q = .finite x ∧ q' = .finite y ∧
      (x.IsZero ∧ y.IsZero ∨
        ¬ x.IsZero ∧ ¬ y.IsZero ∧ x.value = y.value ∧
          max 0 (-x.exponent) = max 0 (-y.exponent))

namespace Numeric

variable {settings settings' : Settings} {q q' : Quantity} {w w' : Numeric}

/-- **Accepted quantities have the same wire value just if they agree.** -/
theorem eq_iff_agree (h : ofQuantity settings q = .ok w) (h' : ofQuantity settings' q' = .ok w') :
    w = w' ↔ q.Agree q' := by
  rcases ofQuantity_cases h with ⟨s, rfl, rfl⟩ | ⟨x, rfl, hx, rfl⟩ | ⟨x, m, rfl, hx, rfl, hm⟩
  · rcases ofQuantity_cases h' with ⟨s', rfl, rfl⟩ | ⟨y, rfl, hy, rfl⟩ | ⟨y, n, rfl, hy, rfl, hn⟩
    · simp [Quantity.Agree]
    · simp [Quantity.Agree, zero]
    · simp [Quantity.Agree]
  · rcases ofQuantity_cases h' with ⟨s', rfl, rfl⟩ | ⟨y, rfl, hy, rfl⟩ | ⟨y, n, rfl, hy, rfl, hn⟩
    · simp [Quantity.Agree, zero]
    · simp [Quantity.Agree, hx, hy]
    · simp [Quantity.Agree, zero, hx, hy, hn.ne_zero.symm]
  · rcases ofQuantity_cases h' with ⟨s', rfl, rfl⟩ | ⟨y, rfl, hy, rfl⟩ | ⟨y, n, rfl, hy, rfl, hn⟩
    · simp [Quantity.Agree]
    · simp [Quantity.Agree, zero, hx, hy, hm.ne_zero]
    · rw [number.injEq, hm.eq_iff hn]
      simp [Quantity.Agree, hx, hy]

end Numeric

namespace Frame

open Numeric

variable {bs bs' : List UInt8} {m n : Number}

/-! ### Frames that differ in the scale -/

/-- Whether bytes are the same but for those of the scale. -/
def AgreeOutsideScale (bs bs' : List UInt8) : Prop :=
  ∀ i : ℕ, i ≠ 6 → i ≠ 7 → bs[i]? = bs'[i]?

/-- Words that no byte of the scale belongs to are the same. -/
theorem AgreeOutsideScale.wordAt_eq (hagree : AgreeOutsideScale bs bs') {p : ℕ}
    (h : p + 1 < bs.length) (h' : p + 1 < bs'.length) (hp : p ≤ 4 ∨ 8 ≤ p) :
    wordAt bs p h = wordAt bs' p h' := by
  have hhigh := hagree p (by omega) (by omega)
  have hlow := hagree (p + 1) (by omega) (by omega)
  rw [List.getElem?_eq_getElem (by omega), List.getElem?_eq_getElem (by omega)] at hhigh hlow
  rw [wordAt, wordAt, Option.some.inj hhigh, Option.some.inj hlow]

theorem AgreeOutsideScale.digitFields_eq (hagree : AgreeOutsideScale bs bs') {count count' : ℕ}
    (h : bs.length = 8 + 2 * count) (h' : bs'.length = 8 + 2 * count') (hcount : count = count') :
    digitFields bs count h = digitFields bs' count' h' := by
  subst hcount
  refine congrArg List.ofFn (funext fun i => congrArg BitVec.toInt ?_)
  exact hagree.wordAt_eq _ _ (Or.inr (by omega))

theorem agreeOutsideScale_header (count : ℕ) (weight : ℤ) (tag scale scale' : ℕ)
    (body : List UInt8) :
    AgreeOutsideScale (header count weight tag scale ++ body)
      (header count weight tag scale' ++ body) := by
  intro i h6 h7
  match i, h6, h7 with
  | 0, _, _ | 1, _, _ | 2, _, _ | 3, _, _ | 4, _, _ | 5, _, _ => rfl
  | 6, h6, _ => exact absurd rfl h6
  | 7, _, h7 => exact absurd rfl h7
  | i + 8, _, _ => rfl

/-- **Frames that are the same outside the scale** are those of the same sign, weight and
digits. -/
theorem agreeOutsideScale_iff (h : IsFrameOf bs m) (h' : IsFrameOf bs' n) :
    AgreeOutsideScale bs bs' ↔ m.sign = n.sign ∧ m.weight = n.weight ∧ m.digits = n.digits := by
  constructor
  · intro hagree
    have hcount : countField bs h.header = countField bs' h'.header :=
      congrArg BitVec.toInt (hagree.wordAt_eq _ _ (by decide))
    have hweight : weightField bs h.header = weightField bs' h'.header :=
      congrArg BitVec.toInt (hagree.wordAt_eq _ _ (by decide))
    have htag : tagField bs h.header = tagField bs' h'.header :=
      congrArg BitVec.toNat (hagree.wordAt_eq _ _ (by decide))
    rw [h.count, h'.count] at hcount
    rw [h.weight, h'.weight] at hweight
    rw [h.tag, h'.tag] at htag
    have hdigits := hagree.digitFields_eq h.length h'.length (by exact_mod_cast hcount)
    rw [h.digits, h'.digits] at hdigits
    refine ⟨signTag_injective htag, hweight, ?_⟩
    exact List.map_injective_iff.mpr (fun _ _ => Int.ofNat.inj) hdigits
  · rintro ⟨hsign, hweight, hdigits⟩
    rw [h.eq_header, h'.eq_header, hsign, hweight, hdigits]
    exact agreeOutsideScale_header _ _ _ _ _ _

/-! ### Frames of quantities -/

/-- **Frames tell values apart.** Two quantities have the same frame just if they agree, and
the frames of two decimals other than zero are the same outside the scale just if the decimals
are equal. The settings may differ. -/
theorem ofQuantity_eq_iff (settings settings' : Settings) (q q' : Quantity) (bs bs' : List UInt8)
    (h : ofQuantity settings q = .ok bs) (h' : ofQuantity settings' q' = .ok bs') :
    (bs = bs' ↔ q.Agree q') ∧
    (∀ x y, q = .finite x → q' = .finite y → ¬ x.IsZero → ¬ y.IsZero →
      (AgreeOutsideScale bs bs' ↔ x.value = y.value)) := by
  obtain ⟨w, hw, hbs⟩ := ofQuantity_eq_ok_iff.mp h
  obtain ⟨w', hw', hbs'⟩ := ofQuantity_eq_ok_iff.mp h'
  constructor
  · refine Iff.trans ?_ (eq_iff_agree hw hw')
    constructor
    · rintro rfl
      exact pack_injective hbs hbs'
    · rintro rfl
      exact Except.ok.inj (hbs.symm.trans hbs')
  · rintro x y rfl rfl hx hy
    obtain ⟨-, hm⟩ := (ofDecimal_eq_ok_iff hx).mp hw
    obtain ⟨-, hn⟩ := (ofDecimal_eq_ok_iff hy).mp hw'
    cases w with
    | nan => exact hm.elim
    | number m =>
        cases w' with
        | nan => exact hn.elim
        | number n =>
            rw [Number.IsCanonicalFor.value_eq_iff hm hn]
            exact agreeOutsideScale_iff (isFrameOf_of_pack hbs) (isFrameOf_of_pack hbs')

/-- The decimals `1.5` and `1.50000`, under settings that allow eight and five decimal places:
equal, but with different frames. -/
theorem ofQuantity_eq_iff_half :
    ofQuantity ⟨true, 8, by decide⟩ (.finite ⟨.positive, 15, -1⟩) =
        .ok [0, 2, 0, 0, 0, 0, 0, 1, 0, 1, 0x13, 0x88] ∧
      ofQuantity ⟨false, 5, by decide⟩ (.finite ⟨.positive, 150000, -5⟩) =
        .ok [0, 2, 0, 0, 0, 0, 0, 5, 0, 1, 0x13, 0x88] ∧
      ¬ Quantity.Agree (.finite ⟨.positive, 15, -1⟩) (.finite ⟨.positive, 150000, -5⟩) ∧
      (⟨.positive, 15, -1⟩ : Decimal).value = (⟨.positive, 150000, -5⟩ : Decimal).value := by
  have h : ofQuantity ⟨true, 8, by decide⟩ (.finite ⟨.positive, 15, -1⟩) =
      .ok [0, 2, 0, 0, 0, 0, 0, 1, 0, 1, 0x13, 0x88] := rfl
  have h' : ofQuantity ⟨false, 5, by decide⟩ (.finite ⟨.positive, 150000, -5⟩) =
      .ok [0, 2, 0, 0, 0, 0, 0, 5, 0, 1, 0x13, 0x88] := rfl
  obtain ⟨hsame, hvalue⟩ := ofQuantity_eq_iff _ _ _ _ _ _ h h'
  refine ⟨h, h', fun hagree => absurd (hsame.mpr hagree) (by decide), ?_⟩
  refine (hvalue _ _ rfl rfl (by decide) (by decide)).mp ?_
  exact agreeOutsideScale_header 2 0 0 1 5 [0, 1, 0x13, 0x88]

end Frame

end NumericWire
