import NumericWire.Command
import NumericWire.Proofs.DocumentReading
import NumericWire.Proofs.JsonText
/-!
# NumericWire.Proofs.DocumentText

**The JSON form of a wire value gives it back**, both as a value in memory and as the text that
the command line prints (`Numeric.json_roundtrip`). The text is laid out in one way
(`Numeric.jsonText`).

Two facts meet here: the document of a wire value spells it, and printed JSON reads back. For the
second the document must keep within the limits for texts of unknown origin. It does for any
number of digits, since its integers have no more than five digits and its lists stand at the
second level.
-/

namespace NumericWire

namespace Json

variable {whole depth : Nat} {items : List Json}

theorem itemsFit_of_forall (h : ∀ v ∈ items, v.Fits whole depth) : ItemsFit whole depth items := by
  induction items with
  | nil => exact True.intro
  | cons v items ih =>
      obtain ⟨hv, hitems⟩ := List.forall_mem_cons.1 h
      exact ⟨hv, ih hitems⟩

theorem itemTexts_eq_map (items : List Json) : itemTexts items = items.map toText := by
  induction items with
  | nil => rfl
  | cons v items ih => rw [itemTexts, ih, List.map_cons]

end Json

namespace Numeric

open Document

variable {w : Numeric} {s : String}

/-! ### The layout of the text -/

/-- The JSON text of a number. -/
def Number.jsonText (n : Number) : String :=
  "\x7b\"sign\": \"" ++ signText n.sign ++ "\", \"weight\": " ++ toString n.weight ++
    ", \"scale\": " ++ toString n.scale ++ ", \"digits\": [" ++
    ", ".intercalate (n.digits.map toString) ++ "]\x7d"

/-- The JSON text of a wire value. -/
def jsonText : Numeric → String
  | .number n => n.jsonText
  | .nan => "\x7b\"sign\": \"nan\"\x7d"

theorem stringText_signText (sign : Sign) :
    (Json.stringText (signText sign)).toList = '"' :: ((signText sign).toList ++ ['"']) := by
  cases sign <;> rfl

theorem itemTexts_digits (digits : List Nat) :
    Json.itemTexts ((digits.map Int.ofNat).map .int) = digits.map toString := by
  rw [Json.itemTexts_eq_map, List.map_map, List.map_map]
  exact List.map_congr_left fun _ _ => rfl

theorem toText_toJson_number (n : Number) :
    (Document.ofParts (.number n)).toJson.toText = n.jsonText := by
  have hsign : (Json.stringText "sign").toList = "\"sign\"".toList := rfl
  have hweight : (Json.stringText "weight").toList = "\"weight\"".toList := rfl
  have hscale : (Json.stringText "scale").toList = "\"scale\"".toList := rfl
  have hdigits : (Json.stringText "digits").toList = "\"digits\"".toList := rfl
  have hscaleText : toString (n.scale : Int) = toString n.scale := rfl
  rw [← String.toList_inj, Document.ofParts, Document.toJson]
  -- The equation of the definition is not used: proving it takes long with texts this size.
  delta Number.jsonText
  simp only [Json.toText, Json.fieldTexts, itemTexts_digits, hscaleText,
    String.intercalate_cons_cons, String.intercalate_singleton, String.toList_append,
    stringText_signText, hsign, hweight, hscale, hdigits]
  simp

/-- A wire value is printed in this layout. -/
theorem toText_toJson_ofParts (w : Numeric) : (Document.ofParts w).toJson.toText = jsonText w := by
  cases w with
  | number n => exact toText_toJson_number n
  | nan => rfl

/-! ### Reading the text back -/

theorem fits_int {whole depth : Nat} {n : Int} (hn : n.natAbs < 100000) (hwhole : 5 ≤ whole) :
    (Json.int n).Fits whole depth :=
  Nat.le_trans ((Numeral.length_le_iff (k := 5) (by decide)).2 hn) hwhole

/-- The document of a wire value keeps within the limits for texts of unknown origin. -/
theorem fits_toJson_ofParts (w : Numeric) :
    (Document.ofParts w).toJson.Fits Json.Limits.strict.whole Json.Limits.strict.depth := by
  have hwhole : 5 ≤ Json.Limits.strict.whole := by decide
  cases w with
  | number n =>
      obtain ⟨hmin, hmax⟩ := n.weight_bounds
      have hweight : n.weight.natAbs < 100000 := by
        simp only [minWeight, maxWeight] at hmin hmax
        omega
      have hscale : (n.scale : Int).natAbs < 100000 := Nat.lt_of_le_of_lt n.scale_le (by decide)
      have hdigits : ∀ v ∈ (n.digits.map Int.ofNat).map Json.int,
          v.Fits Json.Limits.strict.whole 198 := by
        intro v hv
        obtain ⟨d, hd, rfl⟩ := List.mem_map.1 hv
        obtain ⟨e, he, rfl⟩ := List.mem_map.1 hd
        have hle := n.digits_le e he
        exact fits_int (Nat.lt_of_le_of_lt hle (by decide)) hwhole
      exact ⟨Or.inr (by decide), True.intro, fits_int hweight hwhole, fits_int hscale hwhole,
        ⟨Or.inr (by decide), Json.itemsFit_of_forall hdigits⟩, True.intro⟩
  | nan => exact ⟨Or.inr (by decide), True.intro, True.intro⟩

/-- **The text of a wire value gives it back.** -/
theorem ofJsonText_jsonText (w : Numeric) : ofJsonText (jsonText w) = .ok w := by
  have hread := Json.ofText?_toText (fits_toJson_ofParts w)
  rw [toText_toJson_ofParts] at hread
  rw [ofJsonText_of_some hread, toJson_ofParts, (isSpelledBy_fieldsOf w).readValue_eq]

/-- What the command line prints for a value. -/
theorem run_encode (settings : Settings) (q : Quantity) :
    Command.run settings (.encode q) = (ofQuantity settings q).map jsonText := by
  rw [Command.run]
  cases ofQuantity settings q with
  | error fault => rfl
  | ok w =>
      change (do return (← w.toJson).toText) = Except.ok (jsonText w)
      rw [toJson_eq, ← toText_toJson_ofParts]
      rfl

/-- **The JSON form of a wire value gives it back.** Every wire value has one; it is printed as
the text `jsonText`, and as a value and as a text it is read as the wire value it came from. -/
theorem json_roundtrip (w : Numeric) :
    (∃ u, w.toJson = .ok u ∧ ofJson u = .ok w ∧ u.toText = jsonText w ∧
      ofJsonText u.toText = .ok w) ∧
    (∀ settings q, Command.run settings (.encode q) = (ofQuantity settings q).map jsonText) := by
  refine ⟨⟨(Document.ofParts w).toJson, toJson_eq w, ofJson_toJson_ofParts w,
    toText_toJson_ofParts w, ?_⟩, run_encode⟩
  rw [toText_toJson_ofParts]
  exact ofJsonText_jsonText w

end Numeric

end NumericWire
