import NumericWire.Proofs.DecimalText
import NumericWire.Proofs.DocumentText
import NumericWire.Proofs.FrameOfDecimal
/-!
# NumericWire.Proofs.CommandRoutes

**The two routes of the command line agree.** A literal goes out as JSON or as a frame in
hexadecimal, and either form comes back as the text of a decimal. Both routes pass through the
same wire value, so they differ only where a frame cannot hold its digits
(`Command.routes_agree`).

What comes back is a literal of the same value. It has to be one in reach of literals: its
leading digit is that of the value, which lies in the range of weights, and behind the point it
has no more digits than the settings let through (`Numeric.exists_inReach`).
-/

namespace NumericWire

namespace Numeric

open Base10000 Decimal

variable {settings : Settings} {x : Decimal} {w : Numeric}

/-! ### The decimal that comes back is in reach -/

/-- The decimal of a canonical form has its leading digit where the weight says. -/
theorem Number.IsCanonicalFor.leadingWeight_toDecimal {n : Number} (h : n.IsCanonicalFor x) :
    n.toDecimal.leadingWeight = n.weight := by
  have hvalue : |n.toDecimal.value| = |x.value| := by
    rw [n.abs_value_toDecimal, h.placeValue_eq]
  have hne : ¬ n.toDecimal.IsZero := by
    rw [← value_eq_zero_iff, ← abs_eq_zero, hvalue, abs_eq_zero, value_eq_zero_iff]
    exact h.not_isZero
  exact leadingWeight_eq hne h.lead n.digits_lt n.abs_value_toDecimal.symm

theorem inReach_ofInt_zero : Literal.InReach (ofInt 0) := by decide

/-- **The decimal of an accepted one** has the same value and is in reach of literals. -/
theorem exists_inReach (h : ofDecimal settings x = .ok w) :
    ∃ y, w.toDecimal = .ok y ∧ y.value = x.value ∧ Literal.InReach y := by
  obtain ⟨y, hy, haligned⟩ := exists_isAlignedFor h
  refine ⟨y, hy, haligned.value, ?_⟩
  by_cases hx : x.IsZero
  · rw [ofDecimal_of_isZero hx] at h
    obtain rfl := Except.ok.inj h
    obtain rfl : ofInt 0 = y := Except.ok.inj hy
    exact inReach_ofInt_zero
  · obtain ⟨haccepts, hw⟩ := (ofDecimal_eq_ok_iff hx).mp h
    cases w with
    | nan => exact hw.elim
    | number n =>
        have hcanon : n.IsCanonicalFor x := hw
        obtain rfl : n.toDecimal = y := Except.ok.inj hy
        have hweight := hcanon.leadingWeight_toDecimal
        have hmax := n.weight_bounds.2
        obtain ⟨k, hk, hexponent⟩ := haligned.exponent
        -- No more digits are needed behind the point than the scale of `x` takes.
        have hle : k ≤ x.scale := hk.2 (mem_places_of_scale_le (by omega))
        have hscale := haccepts.2.trans settings.maxScale_le
        constructor
        · simp only [leadingWeight, decimalsPerDigit, maxWeight] at hweight hmax
          simp only [Literal.maxAdjusted]
          omega
        · simp only [maxScale] at hscale
          simp only [Literal.minExponent]
          omega

end Numeric

namespace Command

open Numeric

variable {settings settings' : Settings} {q : Quantity} {w : Numeric} {j h : String}
  {bs : List UInt8} {pieces : List String} {fault : Fault}

/-! ### The steps of the routes -/

theorem run_encode_eq_ok_iff :
    run settings (.encode q) = .ok j ↔
      ∃ w, Numeric.ofQuantity settings q = .ok w ∧ jsonText w = j := by
  rw [run_encode]
  cases Numeric.ofQuantity settings q <;> simp [Except.map]

theorem run_decode_jsonText (settings : Settings) (w : Numeric) :
    run settings (.decode (jsonText w)) = w.toDecimal.map Decimal.toText := by
  rw [run, ofJsonText_jsonText]
  cases w <;> rfl

theorem run_pack (settings : Settings) (q : Quantity) :
    run settings (.pack q) = (Frame.ofQuantity settings q).map Text.Hex.encode := by
  rw [run]
  cases Frame.ofQuantity settings q <;> rfl

/-- A packed value has a wire value, and that has a frame. -/
theorem run_pack_eq_ok_iff :
    run settings (.pack q) = .ok h ↔
      ∃ w bs, Numeric.ofQuantity settings q = .ok w ∧ Frame.pack w = .ok bs ∧
        Text.Hex.encode bs = h := by
  rw [run_pack]
  constructor
  · intro hrun
    cases hframe : Frame.ofQuantity settings q with
    | error fault => simp [hframe, Except.map] at hrun
    | ok bs =>
        obtain ⟨w, hw, hpack⟩ := Frame.ofQuantity_eq_ok_iff.1 hframe
        rw [hframe] at hrun
        exact ⟨w, bs, hw, hpack, Except.ok.inj hrun⟩
  · rintro ⟨w, bs, hw, hpack, rfl⟩
    rw [Frame.ofQuantity_eq_ok_iff.2 ⟨w, hw, hpack⟩]
    rfl

/-- The pieces of a frame are read as the frame, wherever it is cut. -/
theorem run_unpack (settings : Settings) (hpack : Frame.pack w = .ok bs)
    (hpieces : String.join pieces = Text.Hex.encode bs) :
    run settings (.unpack pieces) = w.toDecimal.map Decimal.toText := by
  have hread : readHex pieces = .ok bs := by
    rw [readHex, hpieces, Text.Hex.decode_encode]
  rw [run, hread]
  change (do return (← Frame.toDecimal bs).toText) = _
  rw [Frame.toDecimal_of_pack hpack]
  cases w <;> rfl

/-! ### The routes -/

/-- **The way out and back as JSON.** Not-a-number has no way back; any other value comes back as
a literal of that value. -/
theorem run_decode_of_encode (settings' : Settings) (hrun : run settings (.encode q) = .ok j) :
    (∃ signaling, q = .nan signaling ∧
        run settings' (.decode j) = .error (.unsupported .nanValue)) ∨
      ∃ x text y, q = .finite x ∧ run settings' (.decode j) = .ok text ∧
        Quantity.ofLiteral? text = some (.finite y) ∧ y.value = x.value := by
  obtain ⟨w, hw, rfl⟩ := run_encode_eq_ok_iff.1 hrun
  rw [run_decode_jsonText]
  cases q with
  | finite x =>
      obtain ⟨y, hy, hvalue, hreach⟩ := exists_inReach hw
      refine Or.inr ⟨x, y.toText, y, rfl, ?_, Quantity.ofLiteral?_toText hreach, hvalue⟩
      rw [hy]
      rfl
  | infinity sign => simp [Numeric.ofQuantity] at hw
  | nan signaling =>
      simp only [Numeric.ofQuantity] at hw
      split at hw
      · obtain rfl := Except.ok.inj hw
        exact Or.inl ⟨signaling, rfl, rfl⟩
      · simp at hw

/-- **The way back from a frame** is that from JSON. -/
theorem run_unpack_of_pack (settings' : Settings) (hrun : run settings (.pack q) = .ok h) :
    ∃ j, run settings (.encode q) = .ok j ∧
      ∀ pieces, String.join pieces = h →
        run settings' (.unpack pieces) = run settings' (.decode j) := by
  obtain ⟨w, bs, hw, hpack, rfl⟩ := run_pack_eq_ok_iff.1 hrun
  refine ⟨jsonText w, run_encode_eq_ok_iff.2 ⟨w, hw, rfl⟩, ?_⟩
  intro pieces hpieces
  rw [run_unpack settings' hpack hpieces, run_decode_jsonText]

/-- What has a JSON form lacks a frame only for its digits. -/
theorem run_pack_error_iff (hrun : run settings (.encode q) = .ok j) :
    run settings (.pack q) = .error fault ↔
      ∃ w, Numeric.ofQuantity settings q = .ok w ∧ 32767 < w.digitCount ∧
        fault = .outOfRange (.digitCount w.digitCount 32767) := by
  obtain ⟨w, hw, -⟩ := run_encode_eq_ok_iff.1 hrun
  rw [run_pack, Frame.ofQuantity_of_ok hw, hw]
  simp only [Except.ok.injEq, exists_eq_left', ← Frame.pack_eq_error_iff]
  cases Frame.pack w <;> simp [Except.map]

/-- **The routes agree and preserve the value.** -/
theorem routes_agree (settings settings' : Settings) (q : Quantity) :
    -- As JSON: the value comes back, except for not-a-number, which does not.
    (∀ j, run settings (.encode q) = .ok j →
      (∃ signaling, q = .nan signaling ∧
          run settings' (.decode j) = .error (.unsupported .nanValue)) ∨
        ∃ x text y, q = .finite x ∧ run settings' (.decode j) = .ok text ∧
          Quantity.ofLiteral? text = some (.finite y) ∧ y.value = x.value) ∧
    -- As a frame, in any pieces: the same comes back, or the same fault.
    (∀ h, run settings (.pack q) = .ok h →
      ∃ j, run settings (.encode q) = .ok j ∧
        ∀ pieces, String.join pieces = h →
          run settings' (.unpack pieces) = run settings' (.decode j)) ∧
    -- Only the digits can be too many for a frame.
    (∀ j fault, run settings (.encode q) = .ok j →
      (run settings (.pack q) = .error fault ↔
        ∃ w, Numeric.ofQuantity settings q = .ok w ∧ 32767 < w.digitCount ∧
          fault = .outOfRange (.digitCount w.digitCount 32767))) :=
  ⟨fun _ hrun => run_decode_of_encode settings' hrun,
    fun _ hrun => run_unpack_of_pack settings' hrun,
    fun _ _ hrun => run_pack_error_iff hrun⟩

/-- The wire value of a decimal without decimal places has one digit for each of its orders. -/
theorem exists_digitCount_eq (settings : Settings) (x : Decimal) (hx : ¬ x.IsZero)
    (haccepts : settings.Accepts x) (hscale : x.scale = 0) :
    ∃ w, Numeric.ofQuantity settings (.finite x) = .ok w ∧ (w.digitCount : ℤ) = x.order + 1 := by
  obtain ⟨n, hn, hcanon⟩ := ofDecimal_of_accepts hx haccepts
  have hlength := hcanon.length_digits (Decimal.isLeast_places_zero hscale)
  refine ⟨.number n, hn, ?_⟩
  simpa [digitCount] using hlength

/-- A tiny value, whose frame is cut within a byte, and one with a digit too many for a frame. -/
theorem routes_agree_extremes :
    (∃ text y, run .default (.decode
          "\x7b\"sign\": \"negative\", \"weight\": -2, \"scale\": 7, \"digits\": [120]\x7d") =
            .ok text ∧
        run .default (.unpack ["0001fffe4", "", "00000070078"]) = .ok text ∧
        Quantity.ofLiteral? text = some (.finite y) ∧
        y.value = (⟨.negative, 12, -7⟩ : Decimal).value) ∧
    run .default (.pack (.finite ⟨.negative, 12, 131067⟩)) =
      .error (.outOfRange (.digitCount 32768 32767)) := by
  constructor
  · obtain ⟨hjson, hframe, -⟩ := routes_agree .default .default (.finite ⟨.negative, 12, -7⟩)
    have hencode : run .default (.encode (.finite ⟨.negative, 12, -7⟩)) = .ok
        "\x7b\"sign\": \"negative\", \"weight\": -2, \"scale\": 7, \"digits\": [120]\x7d" := by
      rw [run_encode]
      rfl
    obtain ⟨j, hj, hpieces⟩ := hframe "0001fffe400000070078" rfl
    obtain rfl := Except.ok.inj (hencode.symm.trans hj)
    rcases hjson _ hencode with ⟨signaling, hnan, -⟩ | ⟨x, text, y, hx, htext, hy, hvalue⟩
    · simp at hnan
    · obtain rfl := Quantity.finite.inj hx
      exact ⟨text, y, htext, (hpieces _ rfl).trans htext, hy, hvalue⟩
  · have haccepts : Settings.default.Accepts ⟨.negative, 12, 131067⟩ := by
      rw [Settings.Accepts]
      decide
    obtain ⟨w, hw, hcount⟩ :=
      exists_digitCount_eq .default ⟨.negative, 12, 131067⟩ (by decide) haccepts rfl
    have horder : (⟨.negative, 12, 131067⟩ : Decimal).order = 32767 := by decide
    have hlong : w.digitCount = 32768 := by omega
    obtain ⟨-, -, hpack⟩ := routes_agree .default .default (.finite ⟨.negative, 12, 131067⟩)
    refine (hpack _ _ (run_encode_eq_ok_iff.2 ⟨w, hw, rfl⟩)).2 ⟨w, hw, by omega, ?_⟩
    rw [hlong]

end Command

end NumericWire
