import NumericWire.Decimal.Literal
import NumericWire.Decimal.Notation
/-!
# NumericWire.Proofs.DecimalText

**The text of a decimal reads back**: as a literal it stands for that very decimal, coefficient
and exponent, if the decimal is in reach of literals at all (`Quantity.ofLiteral?_toText`).

Whatever the notation, a decimal is written with at least one digit before the point, perhaps
some behind it, and perhaps an exponent; what is read depends on these parts alone
(`Decimal.IsSpelled`). So the notations are told apart only once, where the parts of each are
named (`Decimal.exists_isSpelled`).
-/

namespace NumericWire

namespace Decimal

open Literal

variable {x : Decimal} {whole fraction tail cs : List Char} {c : Char} {e : Int}

/-! ### The characters of a text -/

/-- The characters that the text of a decimal consists of. -/
def IsTextChar (c : Char) : Prop := c.isDigit = true ∨ c ∈ ['-', '+', '.', 'E']

theorem toNat_bounds_of_isDigit (h : c.isDigit = true) : 48 ≤ c.toNat ∧ c.toNat ≤ 57 := by
  simp only [Char.isDigit, ge_iff_le, Bool.and_eq_true, decide_eq_true_eq, UInt32.le_iff_toNat_le]
    at h
  exact h

theorem IsTextChar.plain (h : IsTextChar c) :
    Text.isBlank c = false ∧ c ≠ '_' ∧ c.toNat < 0x80 := by
  rcases h with hdigit | hmark
  · have hbounds := toNat_bounds_of_isDigit hdigit
    refine ⟨?_, ?_, by omega⟩
    · simp only [Text.isBlank, Text.isWhiteSpace, Text.isAsciiBlank, Bool.or_eq_false_iff,
        Bool.and_eq_false_iff, beq_eq_false_iff_ne, decide_eq_false_iff_not]
      omega
    · rintro rfl
      simp at hdigit
  · simp only [List.mem_cons, List.not_mem_nil, or_false] at hmark
    rcases hmark with rfl | rfl | rfl | rfl <;> decide

theorem mapM_plainChar? (h : ∀ c ∈ cs, IsTextChar c) : cs.mapM plainChar? = some cs := by
  induction cs with
  | nil => rfl
  | cons c cs ih =>
      obtain ⟨hc, hcs⟩ := List.forall_mem_cons.1 h
      rw [List.mapM_cons, plainChar?, if_pos hc.plain.2.2, ih hcs]
      rfl

/-- A text of such characters is in plain form already. -/
theorem plain?_eq_self (h : ∀ c ∈ cs, IsTextChar c) : plain? cs = some cs := by
  have htrim : Text.trim Text.isBlank cs = cs := by
    refine Text.trim_eq_self ?_ ?_
    · intro c hc
      simp [(h c (List.mem_of_mem_head? hc)).plain.1]
    · intro c hc
      simp [(h c (List.mem_of_getLast? hc)).plain.1]
  have hfilter : cs.filter (· != '_') = cs := by
    rw [List.filter_eq_self]
    intro c hc
    simp [(h c hc).plain.2.1]
  rw [plain?, htrim, hfilter, mapM_plainChar? h]

theorem toLower_of_isDigit (h : c.isDigit = true) : c.toLower = c := by
  have hbounds := toNat_bounds_of_isDigit h
  have hval : c.toNat = c.val.toNat := rfl
  unfold Char.toLower
  split
  · rename_i hupper
    simp only [ge_iff_le, UInt32.le_iff_toNat_le] at hupper
    simp at hupper
    omega
  · rfl

theorem named?_of_isDigit (sign : Sign) (h : c.isDigit = true) : named? sign (c :: cs) = none := by
  unfold named?
  split
  · simp_all
  · simp_all
  · simp_all
  · rfl

/-- The mark of a sign is taken as that sign. -/
theorem takeSign_mark (sign : Sign) (h : c.isDigit = true) :
    takeSign (sign.mark.toList ++ c :: cs) = (sign, c :: cs) := by
  cases sign with
  | positive =>
      have hminus : c ≠ '-' := by
        rintro rfl
        simp at h
      have hplus : c ≠ '+' := by
        rintro rfl
        simp at h
      simp [Sign.mark, takeSign, hminus, hplus]
  | negative => rfl

theorem isTextChar_mark {sign : Sign} (hc : c ∈ sign.mark.toList) : IsTextChar c := by
  cases sign with
  | positive => simp [Sign.mark] at hc
  | negative =>
      obtain rfl := List.mem_singleton.1 hc
      exact Or.inr (by decide)

/-! ### Parts of a text -/

/-- Digits behind a point; where there are none, there is no point. -/
def behindPoint : List Char → List Char
  | [] => []
  | d :: rest => '.' :: d :: rest

/-- The parts of a text one behind the other. -/
def spell (whole fraction tail : List Char) : List Char := whole ++ (behindPoint fraction ++ tail)

/-- What the parts of a text must be to stand for a decimal. -/
structure IsSpelled (x : Decimal) (whole fraction tail : List Char) (e : Int) : Prop where
  whole_ne : whole ≠ []
  digits : ∀ c ∈ whole ++ fraction, c.isDigit = true
  /-- The tail is an exponent, or nothing. -/
  tail_start : tail = [] ∨ tail.head? = some 'E'
  tail_chars : ∀ c ∈ tail, IsTextChar c
  exponent? : exponent? tail = some e
  coefficient : Numeral.toNat (whole ++ fraction) = x.coefficient
  exponent : e - fraction.length = x.exponent

theorem behindPoint_of_ne_nil (h : fraction ≠ []) : behindPoint fraction = '.' :: fraction := by
  obtain ⟨d, rest, rfl⟩ := List.exists_cons_of_ne_nil h
  rfl

theorem mem_behindPoint (hc : c ∈ behindPoint fraction) : c = '.' ∨ c ∈ fraction := by
  cases fraction with
  | nil => simp [behindPoint] at hc
  | cons d rest => exact List.mem_cons.1 hc

namespace IsSpelled

variable (h : IsSpelled x whole fraction tail e)

include h

theorem isTextChar (hc : c ∈ spell whole fraction tail) : IsTextChar c := by
  rcases List.mem_append.1 hc with hwhole | hc
  · exact Or.inl (h.digits c (List.mem_append_left _ hwhole))
  · rcases List.mem_append.1 hc with hpoint | htail
    · rcases mem_behindPoint hpoint with rfl | hfraction
      · exact Or.inr (by decide)
      · exact Or.inl (h.digits c (List.mem_append_right _ hfraction))
    · exact h.tail_chars c htail

/-- The text starts with a digit. -/
theorem exists_head : ∃ c rest, spell whole fraction tail = c :: rest ∧ c.isDigit = true := by
  obtain ⟨c, rest, rfl⟩ := List.exists_cons_of_ne_nil h.whole_ne
  exact ⟨c, _, rfl, h.digits c (by simp)⟩

/-- The digits end where the tail starts. -/
theorem isDigit_head_tail (hc : c ∈ tail.head?) : c.isDigit = false := by
  rcases h.tail_start with rfl | hstart
  · simp at hc
  · rw [hstart] at hc
    obtain rfl := Option.some.inj hc
    decide

theorem takeDigits_eq :
    takeDigits (spell whole fraction tail) = (whole, behindPoint fraction ++ tail) := by
  refine takeDigits_append (fun c hc => h.digits c (List.mem_append_left _ hc)) ?_
  intro c hc
  cases fraction with
  | nil => exact h.isDigit_head_tail hc
  | cons d rest =>
      obtain rfl := Option.some.inj hc
      decide

theorem takeFraction_eq : takeFraction (behindPoint fraction ++ tail) = (fraction, tail) := by
  cases fraction with
  | nil =>
      rcases h.tail_start with rfl | hstart
      · rfl
      · obtain ⟨rest, rfl⟩ := List.head?_eq_some_iff.1 hstart
        rfl
  | cons d rest =>
      exact takeDigits_append (fun c hc => h.digits c (List.mem_append_right _ hc))
        fun c hc => h.isDigit_head_tail hc

/-- **The parts are read as the decimal.** -/
theorem number?_eq (hreach : InReach x) : number? x.sign (spell whole fraction tail) = some x := by
  have hne : whole ++ fraction ≠ [] := fun hnil => h.whole_ne (List.append_eq_nil_iff.1 hnil).1
  rw [number?, h.takeDigits_eq]
  simp only [h.takeFraction_eq, if_neg hne, h.exponent?, h.coefficient, h.exponent]
  exact if_pos hreach

/-- A decimal with its sign is read back, since no name starts with a digit. -/
theorem quantity?_eq (hreach : InReach x) :
    quantity? (x.sign.mark.toList ++ spell whole fraction tail) = some (.finite x) := by
  obtain ⟨c, rest, htext, hc⟩ := h.exists_head
  have hnumber := h.number?_eq hreach
  rw [htext] at hnumber ⊢
  rw [quantity?, takeSign_mark x.sign hc]
  simp only [List.map_cons, toLower_of_isDigit hc, named?_of_isDigit x.sign hc, hnumber,
    Option.map_some]

end IsSpelled

/-! ### The two notations -/

/-- Digits of which the last few stand behind the point. -/
theorem exists_spell_plainDigits (ds : List Char) (places : Nat) (hne : ds ≠ []) :
    ∃ k whole fraction, plainDigits ds places = spell whole fraction [] ∧ whole ≠ [] ∧
      fraction.length = places ∧ whole ++ fraction = List.replicate k '0' ++ ds := by
  unfold plainDigits
  split
  · rename_i hplaces
    exact ⟨0, ds, [], by simp [spell, behindPoint], hne, hplaces.symm, by simp⟩
  · rename_i hplaces
    have hpos : 0 < places := Nat.pos_of_ne_zero hplaces
    split
    · rename_i hlength
      -- The zero before the point is one more in front of the digits.
      refine ⟨places - ds.length + 1, ['0'], List.replicate (places - ds.length) '0' ++ ds, ?_,
        by simp, ?_, ?_⟩
      · rw [spell, behindPoint_of_ne_nil (by simp [hne]), List.append_nil]
        rfl
      · rw [List.length_append, List.length_replicate]
        omega
      · rw [List.replicate_succ]
        rfl
    · rename_i hlength
      have hdrop : ds.drop (ds.length - places) ≠ [] := by
        rw [Ne, List.drop_eq_nil_iff]
        omega
      have htake : ds.take (ds.length - places) ≠ [] := by
        rw [Ne, List.take_eq_nil_iff, not_or]
        exact ⟨by omega, hne⟩
      refine ⟨0, ds.take (ds.length - places), ds.drop (ds.length - places), ?_, htake, ?_, ?_⟩
      · rw [spell, behindPoint_of_ne_nil hdrop, List.append_nil]
      · rw [List.length_drop]
        omega
      · rw [List.take_append_drop]
        rfl

theorem isDigit_of_mem_replicate_append {k n : Nat}
    (hc : c ∈ List.replicate k '0' ++ Numeral.ofNat n) : c.isDigit = true := by
  rcases List.mem_append.1 hc with hzero | hdigit
  · rw [List.eq_of_mem_replicate hzero]
    decide
  · exact Numeral.isDigit_of_mem_ofNat hdigit

theorem isSpelled_of_isPlain (hplain : x.IsPlain) :
    ∃ whole fraction, x.magnitudeText = spell whole fraction [] ∧
      IsSpelled x whole fraction [] 0 := by
  obtain ⟨k, whole, fraction, htext, hwhole, hlength, happend⟩ :=
    exists_spell_plainDigits (Numeral.ofNat x.coefficient) x.scale (Numeral.ofNat_ne_nil _)
  refine ⟨whole, fraction, ?_, ?_⟩
  · rw [magnitudeText, if_pos hplain, htext]
  · exact
      { whole_ne := hwhole
        digits := by
          intro c hc
          rw [happend] at hc
          exact isDigit_of_mem_replicate_append hc
        tail_start := Or.inl rfl
        tail_chars := by simp
        exponent? := rfl
        coefficient := by
          rw [happend, Numeral.toNat_replicate_append, Numeral.toNat_ofNat]
        exponent := by
          have hle := hplain.1
          rw [hlength, scale]
          omega }

/-- The mark of an exponent is read as that exponent. -/
theorem exponent?_exponentMark (e : Int) : exponent? (exponentMark e) = some e := by
  have hne := Numeral.ofNat_ne_nil e.natAbs
  have hdigits : (Numeral.ofNat e.natAbs).all Char.isDigit = true :=
    List.all_eq_true.2 fun c hc => Numeral.isDigit_of_mem_ofNat hc
  have hsign : takeSign ((if e < 0 then '-' else '+') :: Numeral.ofNat e.natAbs) =
      (Sign.ofInt e, Numeral.ofNat e.natAbs) := by
    unfold Sign.ofInt
    split <;> rfl
  rw [exponentMark, exponent?, hsign]
  refine (if_pos ⟨Or.inr rfl, hne, hdigits⟩).trans ?_
  rw [Numeral.toNat_ofNat, Sign.apply_ofInt_natAbs]

theorem isTextChar_exponentMark (hc : c ∈ exponentMark e) : IsTextChar c := by
  rw [exponentMark, List.mem_cons, List.mem_cons] at hc
  rcases hc with rfl | rfl | hdigit
  · exact Or.inr (by decide)
  · split
    · exact Or.inr (by decide)
    · exact Or.inr (by decide)
  · exact Or.inl (Numeral.isDigit_of_mem_ofNat hdigit)

theorem isSpelled_of_not_isPlain (hplain : ¬ x.IsPlain) :
    ∃ whole fraction, x.magnitudeText = spell whole fraction (exponentMark x.adjusted) ∧
      IsSpelled x whole fraction (exponentMark x.adjusted) x.adjusted := by
  obtain ⟨d, rest, hds⟩ := List.exists_cons_of_ne_nil (Numeral.ofNat_ne_nil x.coefficient)
  have hlength := Numeral.length_ofNat x.coefficient
  rw [hds, List.length_cons] at hlength
  refine ⟨[d], rest, ?_, ?_⟩
  · have hpoint : leadingPoint (d :: rest) = [d] ++ behindPoint rest := by
      cases rest <;> rfl
    rw [magnitudeText, if_neg hplain, hds, hpoint, List.append_assoc, spell]
  · exact
      { whole_ne := by simp
        digits := by
          intro c hc
          rw [List.singleton_append, ← hds] at hc
          exact Numeral.isDigit_of_mem_ofNat hc
        tail_start := Or.inr rfl
        tail_chars := fun c hc => isTextChar_exponentMark hc
        exponent? := exponent?_exponentMark x.adjusted
        coefficient := by rw [List.singleton_append, ← hds, Numeral.toNat_ofNat]
        exponent := by
          rw [adjusted, digitCount]
          omega }

/-- **Every decimal is spelled by its text.** -/
theorem exists_isSpelled (x : Decimal) :
    ∃ whole fraction tail e, x.magnitudeText = spell whole fraction tail ∧
      IsSpelled x whole fraction tail e := by
  by_cases hplain : x.IsPlain
  · obtain ⟨whole, fraction, h⟩ := isSpelled_of_isPlain hplain
    exact ⟨whole, fraction, [], 0, h⟩
  · obtain ⟨whole, fraction, h⟩ := isSpelled_of_not_isPlain hplain
    exact ⟨whole, fraction, exponentMark x.adjusted, x.adjusted, h⟩

end Decimal

/-- **The text of a decimal in reach reads back** as that decimal. -/
theorem Quantity.ofLiteral?_toText {x : Decimal} (h : Decimal.Literal.InReach x) :
    ofLiteral? x.toText = some (.finite x) := by
  obtain ⟨whole, fraction, tail, e, htext, hspelled⟩ := x.exists_isSpelled
  have hchars : ∀ c ∈ x.sign.mark.toList ++ Decimal.spell whole fraction tail,
      Decimal.IsTextChar c := by
    intro c hc
    rcases List.mem_append.1 hc with hsign | hc
    · exact Decimal.isTextChar_mark hsign
    · exact hspelled.isTextChar hc
  rw [ofLiteral?, Decimal.toText, String.toList_append, String.toList_ofList, htext,
    Decimal.plain?_eq_self hchars, Option.bind_some, hspelled.quantity?_eq h]

end NumericWire
