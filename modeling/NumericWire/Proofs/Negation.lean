import NumericWire.Proofs.FrameOfDecimal
/-!
# NumericWire.Proofs.Negation

**A decimal and its opposite are treated alike.** The sign takes no part in the checks, in the
alignment or in the splitting into digits, so both are refused for the same reason, or become
wire values that are opposite to each other (`Numeric.ofDecimal_negate`). In a frame the sign has
a word of its own, of which the two tags differ in the high byte only; that is the one byte in
which the frames of opposite numbers differ (`Frame.pack_negate`).

The way back keeps the sign for every wire value, so there are two zeros; the way out knows but
one.
-/

namespace NumericWire

namespace Decimal

variable {x : Decimal}

/-- The sign is handed on, and nothing else is made of it. -/
theorem toNumber_negate
    (hweight : Numeric.minWeight ≤ x.leadingWeight ∧ x.leadingWeight ≤ Numeric.maxWeight)
    (hscale : x.scale ≤ Numeric.maxScale) :
    x.negate.toNumber hweight hscale = (x.toNumber hweight hscale).negate := rfl

end Decimal

namespace Numeric

variable {settings : Settings} {x : Decimal} {n : Number}

theorem Number.toDecimal_negate (n : Number) : n.negate.toDecimal = n.toDecimal.negate := rfl

/-- Opposite numbers have the same weight, scale and digits. -/
theorem Number.eq_negate {m : Number} (hsign : n.sign = m.sign.flip) (hweight : n.weight = m.weight)
    (hscale : n.scale = m.scale) (hdigits : n.digits = m.digits) : n = m.negate := by
  cases m
  cases n
  simp_all [Number.negate]

/-- **Opposite decimals become opposite numbers**, or are refused for the same reason. -/
theorem ofDecimal_negate (settings : Settings) (hx : ¬ x.IsZero) :
    (∃ fault, ofDecimal settings x = .error fault ∧
        ofDecimal settings x.negate = .error fault) ∨
      ∃ n : Number, ofDecimal settings x = .ok (.number n) ∧
        ofDecimal settings x.negate = .ok (.number n.negate) ∧ n.sign = x.sign := by
  have hx' : ¬ x.negate.IsZero := hx
  by_cases haccepts : settings.Accepts x
  · have hlimit := haccepts.2.trans settings.maxScale_le
    have hweight := And.intro (Decimal.minWeight_le_leadingWeight hlimit) haccepts.1
    refine Or.inr ⟨x.toNumber hweight hlimit, ofDecimal_of_fits hx hweight haccepts.2, ?_, rfl⟩
    rw [← Decimal.toNumber_negate]
    exact ofDecimal_of_fits hx' hweight haccepts.2
  · -- The fault is made up of the leading weight and the scale, which both have in common.
    exact Or.inl ⟨_, ofDecimal_of_not_accepts hx haccepts, ofDecimal_of_not_accepts hx' haccepts⟩

end Numeric

namespace Frame

open Numeric

variable {settings : Settings} {x : Decimal} {n : Number} {bs bs' : List UInt8}

/-- The high byte of the tag of a sign. -/
def signByte : Sign → UInt8
  | .positive => 0x00
  | .negative => 0x40

/-- Whether bytes are those of opposite numbers, the first of which has the given sign: they
differ in the high byte of the tag, and in no other. -/
structure AreOpposite (sign : Sign) (bs bs' : List UInt8) : Prop where
  length : bs.length = bs'.length
  differ : ∀ i : ℕ, bs[i]? ≠ bs'[i]? ↔ i = 4
  first : bs[4]? = some (signByte sign)
  second : bs'[4]? = some (signByte sign.flip)

theorem signByte_flip_ne (sign : Sign) : signByte sign ≠ signByte sign.flip := by
  cases sign <;> decide

theorem word_signTag (sign : Sign) : word (signTag sign) = [signByte sign, 0] := by
  cases sign <;> rfl

theorem areOpposite_header (count : ℕ) (weight : ℤ) (sign : Sign) (scale : ℕ)
    (body : List UInt8) :
    AreOpposite sign (header count weight (signTag sign) scale ++ body)
      (header count weight (signTag sign.flip) scale ++ body) := by
  rw [header, header, word_signTag, word_signTag]
  refine ⟨rfl, ?_, rfl, rfl⟩
  intro i
  by_cases hi : i = 4
  · subst hi
    exact ⟨fun _ => rfl, fun _ hsame => signByte_flip_ne sign (Option.some.inj hsame)⟩
  · refine ⟨fun h => absurd ?_ h, fun h => absurd h hi⟩
    -- The bytes in front are the same one by one, and those behind are all the same.
    rcases i with _ | _ | _ | _ | _ | i
    · rfl
    · rfl
    · rfl
    · rfl
    · exact absurd rfl hi
    · rfl

/-- **The frames of opposite numbers** differ in one byte. Both numbers have as many digits, so
neither or both have one. -/
theorem pack_negate (n : Number) :
    (∃ fault, pack (.number n) = .error fault ∧ pack (.number n.negate) = .error fault) ∨
      ∃ bs bs', pack (.number n) = .ok bs ∧ pack (.number n.negate) = .ok bs' ∧
        AreOpposite n.sign bs bs' := by
  by_cases hle : n.digits.length ≤ 32767
  · exact Or.inr ⟨_, _, pack_of_le hle, pack_of_le (n := n.negate) hle,
      areOpposite_header _ _ _ _ _⟩
  · have hlt := Nat.lt_of_not_le hle
    exact Or.inl ⟨_, pack_of_lt hlt, pack_of_lt (n := n.negate) hlt⟩

/-- **Negation goes through.** Of a decimal other than zero and its opposite both are refused for
the same reason, or both become wire values, and frames, that differ in the sign alone. For the
way back this holds of every number on the wire, zeros included. -/
theorem ofQuantity_negate (settings : Settings) :
    (∀ x : Decimal, ¬ x.IsZero →
      -- Wire values.
      ((∃ fault, Numeric.ofQuantity settings (.finite x) = .error fault ∧
          Numeric.ofQuantity settings (.finite x.negate) = .error fault) ∨
        ∃ m n : Number, Numeric.ofQuantity settings (.finite x) = .ok (.number m) ∧
          Numeric.ofQuantity settings (.finite x.negate) = .ok (.number n) ∧
          n.sign = m.sign.flip ∧ n.weight = m.weight ∧ n.scale = m.scale ∧
          n.digits = m.digits) ∧
      -- Frames.
      ((∃ fault, ofQuantity settings (.finite x) = .error fault ∧
          ofQuantity settings (.finite x.negate) = .error fault) ∨
        ∃ bs bs', ofQuantity settings (.finite x) = .ok bs ∧
          ofQuantity settings (.finite x.negate) = .ok bs' ∧ AreOpposite x.sign bs bs')) ∧
    -- The way back.
    (∀ m n : Number, n.sign = m.sign.flip → n.weight = m.weight → n.scale = m.scale →
      n.digits = m.digits →
      ∃ y, (number m).toDecimal = .ok y ∧ (number n).toDecimal = .ok y.negate) := by
  refine ⟨?_, ?_⟩
  · intro x hx
    rcases ofDecimal_negate settings hx with ⟨fault, h, h'⟩ | ⟨n, h, h', hsign⟩
    · exact ⟨Or.inl ⟨fault, h, h'⟩,
        Or.inl ⟨fault, ofQuantity_of_error (q := .finite x) h,
          ofQuantity_of_error (q := .finite x.negate) h'⟩⟩
    · refine ⟨Or.inr ⟨n, n.negate, h, h', rfl, rfl, rfl, rfl⟩, ?_⟩
      have hframe : ofQuantity settings (.finite x) = pack (.number n) := ofQuantity_of_ok h
      have hframe' : ofQuantity settings (.finite x.negate) = pack (.number n.negate) :=
        ofQuantity_of_ok h'
      rw [hframe, hframe', ← hsign]
      exact pack_negate n
  · intro m n hsign hweight hscale hdigits
    rw [Number.eq_negate hsign hweight hscale hdigits]
    exact ⟨m.toDecimal, rfl, congrArg _ m.toDecimal_negate⟩

/-- The decimal `-123.4560` and its opposite, one byte apart; and the two zeros that digits without
a value stand for. -/
theorem ofQuantity_negate_fraction :
    AreOpposite .negative [0, 2, 0, 0, 0x40, 0, 0, 4, 0, 0x7B, 0x11, 0xD0]
        [0, 2, 0, 0, 0x00, 0, 0, 4, 0, 0x7B, 0x11, 0xD0] ∧
      (number ⟨.positive, 3, 0, [0, 0], by decide, by decide, by decide⟩).toDecimal =
        .ok ⟨.positive, 0, 8⟩ ∧
      (number ⟨.negative, 3, 0, [0, 0], by decide, by decide, by decide⟩).toDecimal =
        .ok (⟨.positive, 0, 8⟩ : Decimal).negate := by
  obtain ⟨hout, hback⟩ := ofQuantity_negate .default
  constructor
  · have hframe : ofQuantity .default (.finite ⟨.negative, 1234560, -4⟩) =
        .ok [0, 2, 0, 0, 0x40, 0, 0, 4, 0, 0x7B, 0x11, 0xD0] := rfl
    have hframe' : ofQuantity .default (.finite (⟨.negative, 1234560, -4⟩ : Decimal).negate) =
        .ok [0, 2, 0, 0, 0x00, 0, 0, 4, 0, 0x7B, 0x11, 0xD0] := rfl
    rcases (hout ⟨.negative, 1234560, -4⟩ (by decide)).2 with
      ⟨fault, h, -⟩ | ⟨bs, bs', h, h', hopposite⟩
    · simp [hframe] at h
    · obtain rfl := Except.ok.inj (hframe.symm.trans h)
      obtain rfl := Except.ok.inj (hframe'.symm.trans h')
      exact hopposite
  · obtain ⟨y, hy, hy'⟩ := hback
      ⟨.positive, 3, 0, [0, 0], by decide, by decide, by decide⟩
      ⟨.negative, 3, 0, [0, 0], by decide, by decide, by decide⟩ rfl rfl rfl rfl
    obtain rfl : (⟨.positive, 0, 8⟩ : Decimal) = y := Except.ok.inj hy
    exact ⟨hy, hy'⟩

end Frame

end NumericWire
