import NumericWire.Frame.Layout
/-!
# NumericWire.Proofs.FrameGrammar

**Which bytes are frames**, and what is wrong with all others. The checks run in a fixed order,
so of several faults the first is reported; each outcome has a lemma of its own
(`unpack_of_short` and those behind it), from the first check to the last. The digits are looked
at only where a number is announced: of not-a-number the rest of the frame may hold anything.

`unpack_eq_number_iff` turns it round: a number is read from the frames of that number and from
no other bytes.
-/

namespace NumericWire

namespace Frame

open Numeric

variable {bs : List UInt8} {count : Nat} {sign : Sign} {n : Number}

/-! ### The bounds of a word -/

theorem countField_lt (h : 8 ≤ bs.length) : countField bs h < 32768 := by
  rw [countField, toInt_wordAt]
  exact (readSigned_bounds _ _).2

theorem weightField_bounds (h : 8 ≤ bs.length) :
    minWeight ≤ weightField bs h ∧ weightField bs h ≤ maxWeight := by
  rw [weightField, toInt_wordAt]
  have hbounds := readSigned_bounds bs[2] bs[2 + 1]
  exact ⟨hbounds.1, Int.le_of_lt_add_one hbounds.2⟩

theorem scaleField_le (h : 8 ≤ bs.length) : scaleField bs h ≤ maxScale :=
  Nat.le_of_lt_succ (wordAt bs 6 (by omega)).isLt

/-! ### One outcome after the other -/

theorem unpack_of_short (h : bs.length < 8) :
    unpack bs = .error (.malformedFrame (.header 8 bs.length)) := by
  unfold unpack
  split
  · simp only [List.length_cons] at h
    omega
  · rfl

theorem unpack_of_negative (h : 8 ≤ bs.length) (hcount : countField bs h < 0) :
    unpack bs = .error (.malformedFrame (.negativeCount (countField bs h))) := by
  rw [unpack_eq h, if_pos hcount]

theorem unpack_of_size (h : 8 ≤ bs.length) (hcount : countField bs h = count)
    (hsize : bs.length ≠ 8 + 2 * count) :
    unpack bs = .error (.malformedFrame (.size count (8 + 2 * count) bs.length)) := by
  have hsize' : size count = 8 + 2 * count := by
    simp only [size, headerSize, digitSize]
    omega
  rw [unpack_eq h, hcount, if_neg (by omega), Int.toNat_natCast, hsize', if_pos hsize]

/-- Where the size is right the tag decides. -/
theorem unpack_of_hasSize (h : HasSize bs count) :
    unpack bs =
      match readTag (tagField bs h.header) with
      | .error tag => .error (.malformedFrame (.signTag tag))
      | .ok none => .ok .nan
      | .ok (some sign) =>
        ofParts sign (weightField bs h.header) (scaleField bs h.header)
          (digitFields bs count h.length) := by
  have hsize : bs.length = size count := by
    have hlength := h.length
    simp only [size, headerSize, digitSize]
    omega
  have hread := unpack_eq h.header
  rw [h.count, if_neg (by omega), Int.toNat_natCast, if_neg (fun hne => hne hsize),
    ← digitFields_eq h.length] at hread
  exact hread

theorem unpack_of_tag (h : HasSize bs count)
    (htag : tagField bs h.header ∉ [0x0000, 0x4000, 0xC000]) :
    unpack bs = .error (.malformedFrame (.signTag (tagField bs h.header))) := by
  rw [unpack_of_hasSize h]
  rcases readTag_cases (tagField bs h.header) with ⟨sign, hsign⟩ | hnan | hunknown
  · cases sign <;> simp [hsign, signTag] at htag
  · simp [hnan, nanTag] at htag
  · rw [hunknown]

theorem unpack_of_nan (h : HasSize bs count) (htag : tagField bs h.header = nanTag) :
    unpack bs = .ok .nan := by
  rw [unpack_of_hasSize h, htag, readTag_nanTag]

theorem unpack_of_sign (h : HasSize bs count) (htag : tagField bs h.header = signTag sign) :
    unpack bs =
      ofParts sign (weightField bs h.header) (scaleField bs h.header)
        (digitFields bs count h.length) := by
  rw [unpack_of_hasSize h, htag, readTag_signTag]

/-! ### Where a number is announced -/

/-- The first digit out of range is reported. -/
theorem unpack_of_digit {front rest : List Int} {d : Int} (h : HasSize bs count)
    (htag : tagField bs h.header = signTag sign)
    (hfields : digitFields bs count h.length = front ++ d :: rest)
    (hfront : ∀ e ∈ front, 0 ≤ e ∧ e ≤ Base10000.maxDigit)
    (hd : ¬ (0 ≤ d ∧ d ≤ Base10000.maxDigit)) :
    unpack bs = .error (.invalidWireValue (.digitRange front.length d)) := by
  rw [unpack_of_sign h htag, hfields]
  refine ofParts_of_firstFlaw? (weightField_bounds h.header) (scaleField_le h.header) ?_
  have hfirst := @Candidate.firstFlaw?_int_append_cons 0 front rest d hfront hd
  rwa [Nat.zero_add] at hfirst

/-- Digits in range make a number. -/
theorem unpack_of_digits (h : HasSize bs count) (htag : tagField bs h.header = signTag sign)
    (hdigits : ∀ d ∈ digitFields bs count h.length, 0 ≤ d ∧ d ≤ Base10000.maxDigit) :
    ∃ n : Number, unpack bs = .ok (.number n) ∧ n.sign = sign ∧
      n.weight = weightField bs h.header ∧ n.scale = scaleField bs h.header ∧
      n.digits.map Int.ofNat = digitFields bs count h.length := by
  have hle : ∀ d ∈ (digitFields bs count h.length).map Int.toNat, d ≤ Base10000.maxDigit := by
    intro d hd
    obtain ⟨e, he, rfl⟩ := List.mem_map.1 hd
    exact Int.toNat_le.2 (hdigits e he).2
  have hread : ((digitFields bs count h.length).map Int.toNat).map Int.ofNat =
      (digitFields bs count h.length).map id := by
    rw [List.map_map]
    exact List.map_congr_left fun d hd => Int.toNat_of_nonneg (hdigits d hd).1
  rw [List.map_id] at hread
  refine ⟨⟨sign, weightField bs h.header, scaleField bs h.header, _, weightField_bounds h.header,
    scaleField_le h.header, hle⟩, ?_, rfl, rfl, rfl, hread⟩
  rw [unpack_of_sign h htag, ofParts_eq_ok_iff]
  exact ⟨_, rfl, rfl, rfl, rfl, hread⟩

/-- Of integers that are not all in range there is a first that is not. -/
theorem exists_first_out_of_range {ds : List Int}
    (h : ¬ ∀ d ∈ ds, 0 ≤ d ∧ d ≤ Base10000.maxDigit) :
    ∃ (front : List Int) (d : Int) (rest : List Int), ds = front ++ d :: rest ∧
      (∀ e ∈ front, 0 ≤ e ∧ e ≤ Base10000.maxDigit) ∧ ¬ (0 ≤ d ∧ d ≤ Base10000.maxDigit) := by
  cases hfind : ds.find? fun d : Int => ¬ (0 ≤ d ∧ d ≤ Base10000.maxDigit) with
  | none => exact absurd (by simpa using hfind) h
  | some d =>
      obtain ⟨hd, front, rest, rfl, hfront⟩ := List.find?_eq_some_iff_append.1 hfind
      exact ⟨front, d, rest, rfl, by simpa using hfront, of_decide_eq_true hd⟩

/-- Of a number of the right size the digits alone can be at fault. -/
theorem unpack_eq_invalid_iff (h : HasSize bs count) (htag : tagField bs h.header = signTag sign) :
    (∃ flaw, unpack bs = .error (.invalidWireValue flaw)) ↔
      ∃ d ∈ digitFields bs count h.length, ¬ (0 ≤ d ∧ d ≤ Base10000.maxDigit) := by
  by_cases hdigits : ∀ d ∈ digitFields bs count h.length, 0 ≤ d ∧ d ≤ Base10000.maxDigit
  · obtain ⟨n, hn, -⟩ := unpack_of_digits h htag hdigits
    constructor
    · rintro ⟨flaw, hflaw⟩
      simp [hn] at hflaw
    · rintro ⟨d, hd, hout⟩
      exact absurd (hdigits d hd) hout
  · obtain ⟨front, d, rest, hfields, hfront, hd⟩ := exists_first_out_of_range hdigits
    constructor
    · intro _
      exact ⟨d, by simp [hfields], hd⟩
    · intro _
      exact ⟨_, unpack_of_digit h htag hfields hfront hd⟩

/-! ### All outcomes -/

/-- **Bytes that are not malformed** have the size that they announce and a known tag. -/
theorem malformed_or_announced (bs : List UInt8) :
    (∃ damage, unpack bs = .error (.malformedFrame damage)) ∨
      ∃ (count : Nat) (h : HasSize bs count),
        tagField bs h.header = nanTag ∨ ∃ sign, tagField bs h.header = signTag sign := by
  by_cases h : 8 ≤ bs.length
  · by_cases hneg : countField bs h < 0
    · exact .inl ⟨_, unpack_of_negative h hneg⟩
    · obtain ⟨count, hcount⟩ := Int.eq_ofNat_of_zero_le (Int.not_lt.1 hneg)
      by_cases hlength : bs.length = 8 + 2 * count
      · have hsize : HasSize bs count := ⟨hlength, hcount⟩
        rcases readTag_cases (tagField bs h) with hsign | hnan | hunknown
        · exact .inr ⟨count, hsize, .inr hsign⟩
        · exact .inr ⟨count, hsize, .inl hnan⟩
        · refine .inl ⟨.signTag (tagField bs h), ?_⟩
          rw [unpack_of_hasSize hsize, hunknown]
      · exact .inl ⟨_, unpack_of_size h hcount hlength⟩
  · exact .inl ⟨_, unpack_of_short (Nat.lt_of_not_le h)⟩

/-- Bytes are malformed, or a digit is out of range: nothing else is wrong with any. -/
theorem unpack_fault {fault : Fault} (hfault : unpack bs = .error fault) :
    (∃ damage, fault = .malformedFrame damage) ∨
      ∃ p d, fault = .invalidWireValue (.digitRange p d) := by
  rcases malformed_or_announced bs with ⟨damage, hbad⟩ | ⟨count, h, hnan | ⟨sign, hsign⟩⟩
  · rw [hbad] at hfault
    exact .inl ⟨damage, (Except.error.inj hfault).symm⟩
  · rw [unpack_of_nan h hnan] at hfault
    simp at hfault
  · by_cases hdigits : ∀ d ∈ digitFields bs count h.length, 0 ≤ d ∧ d ≤ Base10000.maxDigit
    · obtain ⟨n, hn, -⟩ := unpack_of_digits h hsign hdigits
      rw [hn] at hfault
      simp at hfault
    · obtain ⟨front, d, rest, hfields, hfront, hd⟩ := exists_first_out_of_range hdigits
      rw [unpack_of_digit h hsign hfields hfront hd] at hfault
      exact .inr ⟨_, _, (Except.error.inj hfault).symm⟩

/-- **A number is read from its frames and from no other bytes.** -/
theorem unpack_eq_number_iff : unpack bs = .ok (.number n) ↔ IsFrameOf bs n := by
  constructor
  · intro hread
    rcases malformed_or_announced bs with ⟨damage, hbad⟩ | ⟨count, h, hnan | ⟨sign, hsign⟩⟩
    · simp [hbad] at hread
    · simp [unpack_of_nan h hnan] at hread
    · rw [unpack_of_sign h hsign, ofParts_eq_ok_iff] at hread
      obtain ⟨m, hm, rfl, hweight, hscale, hdigits⟩ := hread
      obtain rfl := number.inj hm
      have hlength : n.digits.length = count := by
        have hlengths := congrArg List.length hdigits
        simpa using hlengths
      subst hlength
      exact ⟨h, hweight.symm, hsign, by omega, hdigits.symm⟩
  · rintro ⟨h, hweight, htag, hscale, hdigits⟩
    rw [unpack_of_sign h htag, ofParts_eq_ok_iff]
    exact ⟨n, rfl, rfl, hweight.symm, by omega, hdigits.symm⟩

/-- Not-a-number is read wherever it is announced and the size is right. -/
theorem unpack_eq_nan_iff :
    unpack bs = .ok .nan ↔
      ∃ (count : Nat) (h : HasSize bs count), tagField bs h.header = nanTag := by
  constructor
  · intro hread
    rcases malformed_or_announced bs with ⟨damage, hbad⟩ | ⟨count, h, hnan | ⟨sign, hsign⟩⟩
    · simp [hbad] at hread
    · exact ⟨count, h, hnan⟩
    · rw [unpack_of_sign h hsign, ofParts_eq_ok_iff] at hread
      obtain ⟨m, hm, -⟩ := hread
      simp at hm
  · rintro ⟨count, h, htag⟩
    exact unpack_of_nan h htag

/-- What is accepted has the size that it announces. -/
theorem hasSize_of_unpack {w : Numeric} (hread : unpack bs = .ok w) :
    ∃ count : Nat, HasSize bs count ∧ ∀ n, w = .number n → n.digits.length = count := by
  cases w with
  | nan =>
      obtain ⟨count, h, -⟩ := unpack_eq_nan_iff.1 hread
      exact ⟨count, h, fun n hn => by simp at hn⟩
  | number m =>
      have hframe := unpack_eq_number_iff.1 hread
      refine ⟨m.digits.length, hframe.toHasSize, ?_⟩
      rintro n ⟨⟩
      rfl

/-- **Every byte string is classified**, in the order of the checks. Words are read only where
both of their bytes are, and bytes that are accepted hold a header and the digits that it
announces and nothing else. -/
theorem unpack_classification (bs : List UInt8) :
    (bs.length < 8 → unpack bs = .error (.malformedFrame (.header 8 bs.length))) ∧
    (∀ h : 8 ≤ bs.length,
      (countField bs h < 0 →
        unpack bs = .error (.malformedFrame (.negativeCount (countField bs h)))) ∧
      ∀ count : Nat, countField bs h = count →
        (bs.length ≠ 8 + 2 * count →
          unpack bs = .error (.malformedFrame (.size count (8 + 2 * count) bs.length))) ∧
        ∀ hlength : bs.length = 8 + 2 * count,
          (tagField bs h ∉ [0x0000, 0x4000, 0xC000] →
            unpack bs = .error (.malformedFrame (.signTag (tagField bs h)))) ∧
          (tagField bs h = 0xC000 → unpack bs = .ok .nan) ∧
          ∀ sign : Sign, tagField bs h = (if sign = .negative then 0x4000 else 0x0000) →
            -- A digit out of range, of which the first is named, is all that can be wrong.
            ((∃ flaw, unpack bs = .error (.invalidWireValue flaw)) ↔
              ∃ d ∈ digitFields bs count hlength, ¬ (0 ≤ d ∧ d ≤ 9999)) ∧
            (∀ front d rest, digitFields bs count hlength = front ++ d :: rest →
              (∀ e ∈ front, 0 ≤ e ∧ e ≤ 9999) → ¬ (0 ≤ d ∧ d ≤ 9999) →
              unpack bs = .error (.invalidWireValue (.digitRange front.length d))) ∧
            ((∀ d ∈ digitFields bs count hlength, 0 ≤ d ∧ d ≤ 9999) →
              ∃ n : Number, unpack bs = .ok (.number n) ∧ n.sign = sign ∧
                n.weight = weightField bs h ∧ n.scale = scaleField bs h ∧
                n.digits.map Int.ofNat = digitFields bs count hlength)) ∧
    (∀ fault, unpack bs = .error fault →
      (∃ damage, fault = .malformedFrame damage) ∨
        ∃ p d, fault = .invalidWireValue (.digitRange p d)) ∧
    (∀ w, unpack bs = .ok w →
      ∃ (h : 8 ≤ bs.length) (count : Nat), countField bs h = count ∧ bs.length = 8 + 2 * count ∧
        ∀ n, w = .number n → n.digits.length = count) := by
  refine ⟨unpack_of_short, fun h => ⟨unpack_of_negative h, fun count hcount =>
    ⟨unpack_of_size h hcount, fun hlength => ?_⟩⟩, fun _ => unpack_fault, fun w hread => ?_⟩
  · have hsize : HasSize bs count := ⟨hlength, hcount⟩
    refine ⟨unpack_of_tag hsize, unpack_of_nan hsize, fun sign htag => ?_⟩
    have hsign : tagField bs h = signTag sign := by
      rw [htag]
      cases sign <;> rfl
    exact ⟨unpack_eq_invalid_iff hsize hsign, fun front d rest => unpack_of_digit hsize hsign,
      unpack_of_digits hsize hsign⟩
  · obtain ⟨count, hsize, hdigits⟩ := hasSize_of_unpack hread
    exact ⟨hsize.header, count, hsize.count, hsize.length, hdigits⟩

/-- Two digits out of range behind one that is not: a negative one and one too large. The
position of the first is reported. With one byte less the size is wrong, and this is reported
although the digits still are out of range; so is a tag of infinity. -/
theorem unpack_classification_faults :
    unpack [0, 3, 0, 0, 0x40, 0, 0, 0, 0, 1, 0xFF, 0xFF, 0x27, 0x10] =
      .error (.invalidWireValue (.digitRange 1 (-1))) ∧
    unpack [0, 3, 0, 0, 0x40, 0, 0, 0, 0, 1, 0xFF, 0xFF, 0x27] =
      .error (.malformedFrame (.size 3 14 13)) ∧
    unpack [0, 1, 0, 0, 0xD0, 0, 0, 0, 0xFF, 0xFF] =
      .error (.malformedFrame (.signTag 0xD000)) := by
  refine ⟨?_, ?_, ?_⟩
  · obtain ⟨-, hheader, -⟩ := unpack_classification
      [0, 3, 0, 0, 0x40, 0, 0, 0, 0, 1, 0xFF, 0xFF, 0x27, 0x10]
    obtain ⟨-, -, hsign⟩ := ((hheader (by decide)).2 3 (by decide)).2 (by decide)
    obtain ⟨-, hfirst, -⟩ := hsign .negative (by decide)
    exact hfirst [1] (-1) [10000] (by decide) (by decide) (by decide)
  · obtain ⟨-, hheader, -⟩ := unpack_classification
      [0, 3, 0, 0, 0x40, 0, 0, 0, 0, 1, 0xFF, 0xFF, 0x27]
    exact ((hheader (by decide)).2 3 (by decide)).1 (by decide)
  · obtain ⟨-, hheader, -⟩ := unpack_classification [0, 1, 0, 0, 0xD0, 0, 0, 0, 0xFF, 0xFF]
    obtain ⟨htag, -⟩ := ((hheader (by decide)).2 1 (by decide)).2 (by decide)
    exact htag (by decide)

end Frame

end NumericWire
