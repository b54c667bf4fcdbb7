import NumericWire.Text.Blank
import NumericWire.Text.Quoted
/-!
# NumericWire.Text.Hex

**Bytes as hexadecimal text.** `Hex.encode` writes two lower-case digits for each byte.
`Hex.decode` reads digits of either case; blanks may stand before, between and behind the
bytes, but not inside one. A refusal names the position of the character that does not
fit: the first one outside ASCII if there is one, else the first that is neither a digit
nor a blank in its place, which is the length of the text if half a byte is left over.

`decode_encode` says that written bytes read back.
-/

namespace NumericWire.Text.Hex

/-- The two digits of a byte, high half first. -/
def pair (byte : UInt8) : List Char :=
  [hexDigit (byte.toNat / 16), hexDigit byte.toNat]

/-- The digits of all bytes, in order. -/
def encode (bytes : List UInt8) : String := String.ofList (bytes.flatMap pair)

/-- The value of a hexadecimal digit. -/
def digitValue? (c : Char) : Option Nat :=
  if '0' ≤ c ∧ c ≤ '9' then some (c.toNat - '0'.toNat)
  else if 'a' ≤ c ∧ c ≤ 'f' then some (c.toNat - 'a'.toNat + 10)
  else if 'A' ≤ c ∧ c ≤ 'F' then some (c.toNat - 'A'.toNat + 10)
  else none

/-- Reads on from the given position; `bytes` are those read before, last first. -/
def decodeFrom (position : Nat) (bytes : List UInt8) : List Char → Except Nat (List UInt8)
  | [] => .ok bytes.reverse
  | c :: rest =>
    if isAsciiBlank c then decodeFrom (position + 1) bytes rest
    else
      match digitValue? c with
      | none => .error position
      | some high =>
        match rest with
        | [] => .error (position + 1)
        | d :: rest =>
          match digitValue? d with
          | none => .error (position + 1)
          | some low =>
            decodeFrom (position + 2) (UInt8.ofNat (16 * high + low) :: bytes) rest

/-- The bytes that a text spells. The error is the position of the misfit. -/
def decode (s : String) : Except Nat (List UInt8) :=
  match s.toList.findIdx? (fun c => 0x80 ≤ c.toNat) with
  | some position => .error position
  | none => decodeFrom 0 [] s.toList

/-! ### Reading back -/

/-- A written digit has the value that it was written for. -/
theorem digitValue?_hexDigit (n : Nat) : digitValue? (hexDigit n) = some (n % 16) := by
  have h : ∀ d < 16, digitValue? (Nat.digitChar d) = some d := by decide +kernel
  exact h _ (Nat.mod_lt _ (by decide))

/-- A written digit is not taken for a blank, nor for a character outside ASCII. -/
theorem hexDigit_plain (n : Nat) :
    isAsciiBlank (hexDigit n) = false ∧ (hexDigit n).toNat < 0x80 := by
  have h : ∀ d < 16,
      isAsciiBlank (Nat.digitChar d) = false ∧ (Nat.digitChar d).toNat < 0x80 := by
    decide +kernel
  exact h _ (Nat.mod_lt _ (by decide))

/-- The two digits of a byte are read as that byte, whatever follows them. -/
theorem decodeFrom_pair (position : Nat) (bytes : List UInt8) (byte : UInt8)
    (rest : List Char) :
    decodeFrom position bytes (pair byte ++ rest) =
      decodeFrom (position + 2) (byte :: bytes) rest := by
  have hlt : byte.toNat < 256 := byte.toNat_lt
  have hhalves : 16 * (byte.toNat / 16 % 16) + byte.toNat % 16 = byte.toNat := by omega
  have hbyte : UInt8.ofNat (16 * (byte.toNat / 16 % 16) + byte.toNat % 16) = byte := by
    rw [hhalves]
    exact UInt8.ofNat_toNat
  rw [pair, List.cons_append, List.cons_append, List.nil_append, decodeFrom]
  simp [(hexDigit_plain _).1, digitValue?_hexDigit, hbyte]

/-- Written bytes are read in order, behind those that were read before. -/
theorem decodeFrom_flatMap_pair (position : Nat) (done bytes : List UInt8) :
    decodeFrom position done (bytes.flatMap pair) = .ok (done.reverse ++ bytes) := by
  induction bytes generalizing position done with
  | nil => simp [decodeFrom]
  | cons byte bytes ih => rw [List.flatMap_cons, decodeFrom_pair, ih]; simp

/-- Written bytes are in ASCII. -/
theorem lt_of_mem_encode {bytes : List UInt8} {c : Char} (h : c ∈ (encode bytes).toList) :
    c.toNat < 0x80 := by
  rw [encode, String.toList_ofList, List.mem_flatMap] at h
  obtain ⟨byte, -, hc⟩ := h
  rcases List.mem_cons.1 hc with rfl | hc
  · exact (hexDigit_plain _).2
  · rw [List.mem_singleton.1 hc]
    exact (hexDigit_plain _).2

/-- Bytes written as hexadecimal text read back. -/
@[simp] theorem decode_encode (bytes : List UInt8) : decode (encode bytes) = .ok bytes := by
  have hascii : (encode bytes).toList.findIdx? (fun c => 0x80 ≤ c.toNat) = none := by
    rw [List.findIdx?_eq_none_iff]
    intro c hc
    simpa using lt_of_mem_encode hc
  rw [decode, hascii]
  simpa [encode] using decodeFrom_flatMap_pair 0 [] bytes

end NumericWire.Text.Hex
