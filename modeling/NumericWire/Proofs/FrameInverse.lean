import NumericWire.Proofs.FrameGrammar
/-!
# NumericWire.Proofs.FrameInverse

**Writing and reading frames undo each other.** A number is written as one of its frames
(`isFrameOf_of_pack`), and it has only one, since a word determines its two bytes
(`pack_of_isFrameOf`). As the frames of a number are also the bytes that it is read from, either
way round there is nothing lost. Not-a-number is read from many frames and written as one.
-/

namespace NumericWire

/-- How many digits a wire value has; not-a-number has none. -/
def Numeric.digitCount : Numeric → Nat
  | number n => n.digits.length
  | nan => 0

namespace Frame

open Numeric

variable {bs : List UInt8} {n : Number}

/-! ### The frame of a number -/

theorem pack_of_le (h : n.digits.length ≤ 32767) :
    pack (.number n) = .ok (header n.digits.length n.weight (signTag n.sign) n.scale ++
      n.digits.flatMap word) := if_pos h

theorem pack_of_lt (h : 32767 < n.digits.length) :
    pack (.number n) = .error (.outOfRange (.digitCount n.digits.length 32767)) :=
  if_neg (Nat.not_le.2 h)

/-- Digits are far from the sign bit, so they are written alike as signed words. -/
theorem flatMap_word_digits (n : Number) :
    n.digits.flatMap word = (n.digits.map Int.ofNat).flatMap signedWord :=
  flatMap_word_eq fun d hd => Nat.lt_of_le_of_lt (n.digits_le d hd) (by decide)

theorem readSignedWords_digits (n : Number) :
    readSignedWords (n.digits.flatMap word) = n.digits.map Int.ofNat := by
  rw [flatMap_word_digits]
  refine readSignedWords_flatMap_signedWord fun d hd => ?_
  obtain ⟨e, he, rfl⟩ := List.mem_map.1 hd
  have hle := n.digits_le e he
  simp only [Base10000.maxDigit, Base10000.base] at hle
  simp only [Int.ofNat_eq_natCast]
  omega

/-- **What is written has every part in its place**: none of them is too large for its word. -/
theorem isFrameOf_of_pack (h : pack (.number n) = .ok bs) : IsFrameOf bs n := by
  by_cases hle : n.digits.length ≤ 32767
  · rw [pack_of_le hle] at h
    obtain rfl := Except.ok.inj h
    have hlength : (header n.digits.length n.weight (signTag n.sign) n.scale ++
        n.digits.flatMap word).length = 8 + 2 * n.digits.length := by
      rw [List.length_append, length_flatMap_word]
      rfl
    have hweight := n.weight_bounds
    have hscale := n.scale_le
    simp only [minWeight, maxWeight, maxScale] at hweight hscale
    have htag : signTag n.sign < 65536 := by cases n.sign <;> decide
    refine ⟨⟨hlength, ?_⟩, ?_, ?_, ?_, ?_⟩
    · rw [countField, toInt_wordAt]
      exact readSigned_signedWord (by omega)
    · rw [weightField, toInt_wordAt]
      exact readSigned_signedWord (by omega)
    · rw [tagField, toNat_wordAt]
      exact readWord_word htag
    · rw [scaleField, toNat_wordAt]
      exact readWord_word (by omega)
    · rw [digitFields_eq]
      exact readSignedWords_digits n
  · simp [pack_of_lt (Nat.lt_of_not_le hle)] at h

/-- The bytes of a frame: each part is what its bytes spell, and is written as the bytes that
spell it. -/
theorem IsFrameOf.eq_header (h : IsFrameOf bs n) :
    bs = header n.digits.length n.weight (signTag n.sign) n.scale ++ n.digits.flatMap word := by
  obtain ⟨⟨hlength, hcount⟩, hweight, htag, hscale, hdigits⟩ := h
  obtain ⟨n₁, n₀, w₁, w₀, t₁, t₀, s₁, s₀, body, rfl⟩ := exists_eq_header (by omega : 8 ≤ bs.length)
  have hheader : header n.digits.length n.weight (signTag n.sign) n.scale =
      [n₁, n₀, w₁, w₀, t₁, t₀, s₁, s₀] := by
    rw [header, ← hcount, ← hweight, ← htag, ← hscale, countField, weightField, tagField,
      scaleField, toInt_wordAt, toInt_wordAt, toNat_wordAt, toNat_wordAt]
    simp only [List.getElem_cons_zero, List.getElem_cons_succ, signedWord_readSigned,
      word_readWord]
    rfl
  have heven : body.length % 2 = 0 := by
    simp only [List.length_cons] at hlength
    omega
  have hbody : n.digits.flatMap word = body := by
    rw [flatMap_word_digits, ← hdigits, digitFields_eq]
    exact flatMap_signedWord_readSignedWords heven
  rw [hheader, hbody]
  rfl

/-- **A frame of a number is what the number is written as.** -/
theorem pack_of_isFrameOf (h : IsFrameOf bs n) : pack (.number n) = .ok bs := by
  have hlt := countField_lt h.header
  rw [h.count] at hlt
  rw [pack_of_le (by omega), ← h.eq_header]

/-! ### There and back -/

/-- The frame that not-a-number is written as: no digit, weight 0 and scale 0. -/
theorem pack_nan : pack .nan = .ok [0, 0, 0, 0, 0xC0, 0, 0, 0] := rfl

theorem unpack_pack {w : Numeric} (h : pack w = .ok bs) : unpack bs = .ok w := by
  cases w with
  | number n => exact unpack_eq_number_iff.2 (isFrameOf_of_pack h)
  | nan =>
      obtain rfl := Except.ok.inj (pack_nan.symm.trans h)
      rfl

/-- Different wire values have different frames. -/
theorem pack_injective {w w' : Numeric} (h : pack w = .ok bs) (h' : pack w' = .ok bs) : w = w' := by
  have hread := unpack_pack h
  rw [unpack_pack h'] at hread
  exact (Except.ok.inj hread).symm

theorem length_pack {w : Numeric} (h : pack w = .ok bs) : bs.length = 8 + 2 * w.digitCount := by
  cases w with
  | number n => exact (isFrameOf_of_pack h).length
  | nan =>
      obtain rfl := Except.ok.inj (pack_nan.symm.trans h)
      rfl

theorem exists_pack {w : Numeric} (h : w.digitCount ≤ 32767) : ∃ bs, pack w = .ok bs := by
  cases w with
  | number n => exact ⟨_, pack_of_le h⟩
  | nan => exact ⟨_, pack_nan⟩

/-- Too many digits are all that keeps a wire value from being written. -/
theorem pack_eq_error_iff {w : Numeric} {fault : Fault} :
    pack w = .error fault ↔
      32767 < w.digitCount ∧ fault = .outOfRange (.digitCount w.digitCount 32767) := by
  by_cases hle : w.digitCount ≤ 32767
  · obtain ⟨bs, hbs⟩ := exists_pack hle
    constructor
    · intro h
      simp [hbs] at h
    · intro h
      omega
  · cases w with
    | number n =>
        have hlt : 32767 < n.digits.length := Nat.lt_of_not_le hle
        rw [pack_of_lt hlt]
        constructor
        · intro h
          exact ⟨hlt, (Except.error.inj h).symm⟩
        · rintro ⟨-, rfl⟩
          rfl
    | nan => simp [digitCount] at hle

/-- **Writing and reading are inverse**, but for what stands in a frame of not-a-number. -/
theorem pack_unpack_inverse :
    (∀ w : Numeric,
      ((∃ excess, pack w = .error (.outOfRange excess)) ↔ 32767 < w.digitCount) ∧
      (w.digitCount ≤ 32767 →
        ∃ bs, pack w = .ok bs ∧ bs.length = 8 + 2 * w.digitCount ∧ unpack bs = .ok w)) ∧
    -- Read off its place, every part is what was to be written there.
    (∀ (n : Number) (bs : List UInt8), pack (.number n) = .ok bs → IsFrameOf bs n) ∧
    (∀ (bs : List UInt8) (w : Numeric), unpack bs = .ok w →
      (w ≠ .nan → pack w = .ok bs) ∧
      (w = .nan → pack w = .ok [0, 0, 0, 0, 0xC0, 0, 0, 0])) := by
  refine ⟨fun w => ⟨?_, fun hle => ?_⟩, fun _ _ => isFrameOf_of_pack, fun bs w h => ⟨?_, ?_⟩⟩
  · constructor
    · rintro ⟨excess, h⟩
      exact (pack_eq_error_iff.1 h).1
    · intro hlt
      exact ⟨_, pack_eq_error_iff.2 ⟨hlt, rfl⟩⟩
  · obtain ⟨bs, hbs⟩ := exists_pack hle
    exact ⟨bs, hbs, length_pack hbs, unpack_pack hbs⟩
  · intro hne
    cases w with
    | number n => exact pack_of_isFrameOf (unpack_eq_number_iff.1 h)
    | nan => exact absurd rfl hne
  · rintro rfl
    exact pack_nan

/-- A negative weight, a scale with its highest bit set and digits up to the largest; and a
frame of not-a-number with a weight, a scale and a digit out of range. -/
theorem pack_unpack_inverse_extremes :
    (∃ bs, pack (.number ⟨.negative, -1, 40000, [1, 9999, 0], by decide, by decide, by decide⟩) =
        .ok bs ∧ bs = [0, 3, 0xFF, 0xFF, 0x40, 0, 0x9C, 0x40, 0, 1, 0x27, 0x0F, 0, 0] ∧
      unpack bs =
        .ok (.number ⟨.negative, -1, 40000, [1, 9999, 0], by decide, by decide, by decide⟩)) ∧
    unpack [0, 1, 0x12, 0x34, 0xC0, 0, 0, 7, 0xFF, 0xFF] = .ok .nan ∧
    pack .nan = .ok [0, 0, 0, 0, 0xC0, 0, 0, 0] := by
  obtain ⟨hwrite, -, hread⟩ := pack_unpack_inverse
  obtain ⟨bs, hbs, -, hback⟩ := (hwrite
    (.number ⟨.negative, -1, 40000, [1, 9999, 0], by decide, by decide, by decide⟩)).2 (by decide)
  have hnan : unpack [0, 1, 0x12, 0x34, 0xC0, 0, 0, 7, 0xFF, 0xFF] = .ok .nan := rfl
  exact ⟨⟨bs, hbs, (Except.ok.inj hbs).symm, hback⟩, hnan, (hread _ _ hnan).2 rfl⟩

end Frame

end NumericWire
