import NumericWire.Frame
/-!
# NumericWire.Frame.Layout

**Where the parts of a frame stand**, by their distance in bytes from its start:

| bytes | part | notation |
|---|---|---|
| 0, 1 | digit count | two's complement |
| 2, 3 | weight | two's complement |
| 4, 5 | sign tag | unsigned |
| 6, 7 | scale | unsigned |
| 8 + 2 i, 9 + 2 i | digit i | two's complement |

A word is put together from the bits of its bytes, high byte first, and there is one only
where both of its bytes are. `unpack_eq` says what is read in these terms, and
`IsFrameOf` what bytes are the frame of a number.
-/

namespace NumericWire

namespace Frame

/-- The word at a position. -/
def wordAt (bs : List UInt8) (p : Nat) (h : p + 1 < bs.length) : BitVec 16 :=
  bs[p].toBitVec ++ bs[p + 1].toBitVec

theorem toNat_wordAt {bs : List UInt8} {p : Nat} (h : p + 1 < bs.length) :
    (wordAt bs p h).toNat = readWord bs[p] bs[p + 1] := by
  have hlow := bs[p + 1].toNat_lt
  have hshift := Nat.shiftLeft_add_eq_or_of_lt hlow bs[p].toNat
  rw [wordAt, BitVec.toNat_append, UInt8.toNat_toBitVec, UInt8.toNat_toBitVec, ← hshift,
    Nat.shiftLeft_eq, readWord, Nat.mul_comm]

theorem toInt_wordAt {bs : List UInt8} {p : Nat} (h : p + 1 < bs.length) :
    (wordAt bs p h).toInt = readSigned bs[p] bs[p + 1] := by
  rw [BitVec.toInt_eq_toNat_cond, toNat_wordAt, readSigned]
  split <;> split <;> omega

/-! ### The parts -/

section

variable (bs : List UInt8) (h : 8 ≤ bs.length)

/-- How many digits are announced. -/
def countField : Int := (wordAt bs 0 (by omega)).toInt

/-- The weight of the first digit. -/
def weightField : Int := (wordAt bs 2 (by omega)).toInt

/-- What tells the sign, or that there is no number. -/
def tagField : Nat := (wordAt bs 4 (by omega)).toNat

/-- The decimal places that the number is shown with. -/
def scaleField : Nat := (wordAt bs 6 (by omega)).toNat

end

/-- The digits, where nothing stands behind them. They are not checked to be in range. -/
def digitFields (bs : List UInt8) (count : Nat) (h : bs.length = 8 + 2 * count) : List Int :=
  List.ofFn fun i : Fin count => (wordAt bs (2 * i + 8) (by omega)).toInt

@[simp] theorem length_digitFields (bs : List UInt8) (count : Nat) (h : bs.length = 8 + 2 * count) :
    (digitFields bs count h).length = count := List.length_ofFn

/-- Whether bytes have the size that they announce. -/
structure HasSize (bs : List UInt8) (count : Nat) : Prop where
  length : bs.length = 8 + 2 * count
  count : countField bs (by omega) = count

theorem HasSize.header {bs : List UInt8} {count : Nat} (h : HasSize bs count) : 8 ≤ bs.length := by
  have hlength := h.length
  omega

/-- Whether bytes are the frame of a number: its parts stand where they belong, and there is
nothing else. -/
structure IsFrameOf (bs : List UInt8) (n : Numeric.Number) : Prop
    extends HasSize bs n.digits.length where
  weight : weightField bs toHasSize.header = n.weight
  tag : tagField bs toHasSize.header = Numeric.signTag n.sign
  scale : scaleField bs toHasSize.header = n.scale
  digits : digitFields bs n.digits.length length = n.digits.map Int.ofNat

/-! ### Reading by position -/

theorem readSignedWords_eq_ofFn {body : List UInt8} {count : Nat} (h : body.length = 2 * count) :
    readSignedWords body =
      List.ofFn fun i : Fin count => (wordAt body (2 * i) (by omega)).toInt := by
  induction count generalizing body with
  | zero =>
    obtain rfl := List.length_eq_zero_iff.1 h
    rfl
  | succ count ih =>
    rcases body with _ | ⟨high, _ | ⟨low, rest⟩⟩
    · simp at h
    · simp only [List.length_cons, List.length_nil] at h
      omega
    · have hrest : rest.length = 2 * count := by
        simp only [List.length_cons] at h
        omega
      rw [readSignedWords, ih hrest, List.ofFn_succ, toInt_wordAt]
      rfl

/-- Bytes that are enough for a header start with the eight bytes of one. -/
theorem exists_eq_header {bs : List UInt8} (h : 8 ≤ bs.length) :
    ∃ n₁ n₀ w₁ w₀ t₁ t₀ s₁ s₀ body,
      bs = n₁ :: n₀ :: w₁ :: w₀ :: t₁ :: t₀ :: s₁ :: s₀ :: body := by
  rcases bs with _ | ⟨n₁, _ | ⟨n₀, _ | ⟨w₁, _ | ⟨w₀, _ | ⟨t₁, _ | ⟨t₀, _ | ⟨s₁, _ |
    ⟨s₀, body⟩⟩⟩⟩⟩⟩⟩⟩
  case cons.cons.cons.cons.cons.cons.cons.cons => exact ⟨_, _, _, _, _, _, _, _, _, rfl⟩
  all_goals simp at h

theorem digitFields_eq {bs : List UInt8} {count : Nat} (h : bs.length = 8 + 2 * count) :
    digitFields bs count h = readSignedWords (bs.drop 8) := by
  obtain ⟨n₁, n₀, w₁, w₀, t₁, t₀, s₁, s₀, body, rfl⟩ := exists_eq_header (by omega : 8 ≤ bs.length)
  have hbody : body.length = 2 * count := by
    simp only [List.length_cons] at h
    omega
  exact (readSignedWords_eq_ofFn hbody).symm

/-- **What is read of bytes that hold a header.** -/
theorem unpack_eq {bs : List UInt8} (h : 8 ≤ bs.length) :
    unpack bs =
      if countField bs h < 0 then .error (.malformedFrame (.negativeCount (countField bs h)))
      else if bs.length ≠ size (countField bs h).toNat then
        .error (.malformedFrame
          (.size (countField bs h).toNat (size (countField bs h).toNat) bs.length))
      else
        match readTag (tagField bs h) with
        | .error tag => .error (.malformedFrame (.signTag tag))
        | .ok none => .ok .nan
        | .ok (some sign) =>
          Numeric.ofParts sign (weightField bs h) (scaleField bs h)
            (readSignedWords (bs.drop 8)) := by
  obtain ⟨n₁, n₀, w₁, w₀, t₁, t₀, s₁, s₀, body, rfl⟩ := exists_eq_header h
  have hlength : (n₁ :: n₀ :: w₁ :: w₀ :: t₁ :: t₀ :: s₁ :: s₀ :: body).length =
      headerSize + body.length := Nat.add_comm body.length 8
  rw [hlength, countField, weightField, tagField, scaleField, toInt_wordAt, toInt_wordAt,
    toNat_wordAt, toNat_wordAt]
  rfl

end Frame

end NumericWire
