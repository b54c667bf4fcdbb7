import NumericWire.Numeric.OfDecimal
import NumericWire.Numeric.ToDecimal
/-!
# NumericWire.Frame

**Binary frames**, the form in which a database sends and takes wire values. A frame is a
sequence of big-endian 16-bit words: a header of four — digit count, weight, sign tag and
scale — and one for each digit. The digit count, the weight and the digits are signed.

* `Frame.pack` — the frame of a wire value; not-a-number has a header without weight and
  scale.
* `Frame.unpack` — the wire value of a frame. Every byte is accounted for: a frame is
  refused if it is shorter or longer than its digit count says.
* `Frame.ofQuantity`, `Frame.toDecimal` — the same, from and to decimals.
-/

namespace NumericWire

namespace Frame

/-- The bytes of a header. -/
def headerSize : Nat := 8

/-- The bytes of a digit. -/
def digitSize : Nat := 2

/-- The largest digit count: that of a signed 16-bit field. -/
def maxDigits : Nat := 32767

/-- The bytes of a frame with the given number of digits. -/
def size (digits : Nat) : Nat := headerSize + digits * digitSize

/-! ### Words -/

/-- The two bytes of a 16-bit word, high byte first. -/
def word (n : Nat) : List UInt8 := [UInt8.ofNat (n / 256), UInt8.ofNat n]

/-- The two bytes of a signed 16-bit word, in two's complement. -/
def signedWord (n : Int) : List UInt8 := word (n % 65536).toNat

/-- The number that two bytes spell. -/
def readWord (high low : UInt8) : Nat := 256 * high.toNat + low.toNat

/-- The signed number that two bytes spell, in two's complement. -/
def readSigned (high low : UInt8) : Int :=
  if readWord high low < 32768 then readWord high low else readWord high low - 65536

/-- The signed words that bytes spell two by two; a byte left over spells none. -/
def readSignedWords : List UInt8 → List Int
  | high :: low :: rest => readSigned high low :: readSignedWords rest
  | _ => []

@[simp] theorem length_word (n : Nat) : (word n).length = 2 := rfl

@[simp] theorem length_signedWord (n : Int) : (signedWord n).length = 2 := rfl

/-- An unsigned word reads back. -/
theorem readWord_word {n : Nat} (h : n < 65536) :
    readWord (UInt8.ofNat (n / 256)) (UInt8.ofNat n) = n := by
  simp only [readWord, UInt8.toNat_ofNat']
  omega

/-- A signed word reads back. -/
theorem readSigned_signedWord {n : Int} (h : -32768 ≤ n ∧ n < 32768) :
    readSigned (UInt8.ofNat ((n % 65536).toNat / 256)) (UInt8.ofNat (n % 65536).toNat) = n := by
  rw [readSigned, readWord_word (by omega)]
  split <;> omega

theorem readWord_lt (high low : UInt8) : readWord high low < 65536 := by
  have hhigh := high.toNat_lt
  have hlow := low.toNat_lt
  simp only [readWord]
  omega

theorem readSigned_bounds (high low : UInt8) :
    -32768 ≤ readSigned high low ∧ readSigned high low < 32768 := by
  have hlt := readWord_lt high low
  unfold readSigned
  split <;> omega

/-- The bytes of a word that was read are the bytes that it was read from. -/
theorem word_readWord (high low : UInt8) : word (readWord high low) = [high, low] := by
  have hlow := low.toNat_lt
  have hdiv : readWord high low / 256 = high.toNat := by
    simp only [readWord]
    omega
  have hmod : UInt8.ofNat (readWord high low) = low := by
    apply UInt8.toNat_inj.1
    simp only [UInt8.toNat_ofNat', readWord]
    omega
  rw [word, hdiv, hmod, UInt8.ofNat_toNat]

theorem signedWord_readSigned (high low : UInt8) :
    signedWord (readSigned high low) = [high, low] := by
  have hlt := readWord_lt high low
  have hmod : (readSigned high low % 65536).toNat = readWord high low := by
    unfold readSigned
    split <;> omega
  rw [signedWord, hmod, word_readWord]

/-- A number that fits an unsigned word is written alike as a signed one. -/
theorem signedWord_natCast {n : Nat} (h : n < 65536) : signedWord n = word n := by
  have hmod : ((n : Int) % 65536).toNat = n := by omega
  rw [signedWord, hmod]

/-! ### Words one behind the other -/

theorem length_flatMap_word (ds : List Nat) : (ds.flatMap word).length = 2 * ds.length := by
  induction ds with
  | nil => rfl
  | cons d ds ih =>
    rw [List.flatMap_cons, List.length_append, ih, length_word, List.length_cons]
    omega

/-- Numbers that fit unsigned words are written alike as signed ones. -/
theorem flatMap_word_eq {ds : List Nat} (h : ∀ d ∈ ds, d < 65536) :
    ds.flatMap word = (ds.map Int.ofNat).flatMap signedWord := by
  induction ds with
  | nil => rfl
  | cons d ds ih =>
    obtain ⟨hd, hds⟩ := List.forall_mem_cons.1 h
    rw [List.map_cons, List.flatMap_cons, List.flatMap_cons, ih hds]
    exact congrArg (· ++ _) (signedWord_natCast hd).symm

/-- Signed words read back. -/
theorem readSignedWords_flatMap_signedWord {ns : List Int}
    (h : ∀ n ∈ ns, -32768 ≤ n ∧ n < 32768) : readSignedWords (ns.flatMap signedWord) = ns := by
  induction ns with
  | nil => rfl
  | cons n ns ih =>
    obtain ⟨hn, hns⟩ := List.forall_mem_cons.1 h
    rw [List.flatMap_cons, signedWord, word, List.cons_append, List.cons_append, List.nil_append,
      readSignedWords, readSigned_signedWord hn, ih hns]

/-- Bytes without one left over are those of the words that they spell. -/
theorem flatMap_signedWord_readSignedWords :
    ∀ {bs : List UInt8}, bs.length % 2 = 0 → (readSignedWords bs).flatMap signedWord = bs
  | [], _ => rfl
  | [_], h => by simp at h
  | high :: low :: rest, h => by
    have hrest : rest.length % 2 = 0 := by
      simp only [List.length_cons] at h
      omega
    rw [readSignedWords, List.flatMap_cons, signedWord_readSigned,
      flatMap_signedWord_readSignedWords hrest]
    rfl

/-! ### Wire values -/

/-- The four words in front of the digits. -/
def header (count : Nat) (weight : Int) (tag scale : Nat) : List UInt8 :=
  signedWord count ++ signedWord weight ++ word tag ++ word scale

/-- The frame of a wire value. It fails for more digits than the digit count can say. -/
def pack : Numeric → Except Fault (List UInt8)
  | .number n =>
    if n.digits.length ≤ maxDigits then
      .ok (header n.digits.length n.weight (Numeric.signTag n.sign) n.scale ++
        n.digits.flatMap word)
    else .error (.outOfRange (.digitCount n.digits.length maxDigits))
  | .nan => .ok (header 0 0 Numeric.nanTag 0)

/-- What a sign tag stands for: a number of some sign, or not-a-number (`none`). The error
is a tag that stands for nothing. -/
def readTag (tag : Nat) : Except Nat (Option Sign) :=
  if tag = Numeric.signTag .positive then .ok (some .positive)
  else if tag = Numeric.signTag .negative then .ok (some .negative)
  else if tag = Numeric.nanTag then .ok none
  else .error tag

@[simp] theorem readTag_signTag (sign : Sign) :
    readTag (Numeric.signTag sign) = .ok (some sign) := by
  cases sign <;> rfl

@[simp] theorem readTag_nanTag : readTag Numeric.nanTag = .ok none := rfl

/-- A tag stands for a sign, for not-a-number or for nothing. -/
theorem readTag_cases (tag : Nat) :
    (∃ sign, tag = Numeric.signTag sign) ∨ tag = Numeric.nanTag ∨ readTag tag = .error tag := by
  unfold readTag
  split
  · rename_i h
    exact .inl ⟨_, h⟩
  · split
    · rename_i h
      exact .inl ⟨_, h⟩
    · split
      · rename_i h
        exact .inr (.inl h)
      · exact .inr (.inr rfl)

/-- The wire value of a frame. The checks run in this order: the header is there, the
digit count is not negative, the frame has the size it announces, the sign tag is known,
and, unless it is that of not-a-number, every digit is in range. -/
def unpack : List UInt8 → Except Fault Numeric
  | n₁ :: n₀ :: w₁ :: w₀ :: t₁ :: t₀ :: s₁ :: s₀ :: body =>
    let count := readSigned n₁ n₀
    -- The size is compared as a whole, so an odd byte at the end is refused as well.
    if count < 0 then .error (.malformedFrame (.negativeCount count))
    else if headerSize + body.length ≠ size count.toNat then
      .error (.malformedFrame (.size count.toNat (size count.toNat) (headerSize + body.length)))
    else
      match readTag (readWord t₁ t₀) with
      | .error tag => .error (.malformedFrame (.signTag tag))
      | .ok none => .ok .nan
      | .ok (some sign) =>
        Numeric.ofParts sign (readSigned w₁ w₀) (readWord s₁ s₀) (readSignedWords body)
  | short => .error (.malformedFrame (.header headerSize short.length))

/-! ### Decimals -/

/-- The frame of a quantity under the given settings. -/
def ofQuantity (settings : Settings) (q : Quantity) : Except Fault (List UInt8) :=
  match Numeric.ofQuantity settings q with
  | .ok w => pack w
  | .error fault => .error fault

/-- The decimal of a frame. -/
def toDecimal (bytes : List UInt8) : Except Fault Decimal :=
  match unpack bytes with
  | .ok w => w.toDecimal
  | .error fault => .error fault

/-- The decimal of a frame that may be missing. -/
def toDecimal? : Option (List UInt8) → Except Fault Decimal
  | none => .error .unexpectedNull
  | some bytes => toDecimal bytes

end Frame

end NumericWire
