import NumericWire.Proofs.DocumentParts
/-!
# NumericWire.Proofs.DocumentReading

**Untrusted JSON is read safely.** A JSON value, or a text, becomes the wire value that it spells,
or it is refused as an invalid document with at least one issue (`Numeric.ReadsSafely`). The parts
of an accepted document are checked a second time when the wire value is put together; that check
never fails, since a document that is spelled has no flaw left (`IsSpelledBy.exists_toNumeric`).

Conversely the document of a wire value spells it, so it is accepted and gives it back
(`Numeric.ofJson_toJson`).
-/

namespace NumericWire

namespace Document

open Numeric

variable {source : Source} {fields : List (String × Json)} {v : Json} {s : String} {d : Document}
  {w : Numeric}

/-! ### Documents and wire values -/

theorem toNumeric_ofParts (w : Numeric) : (ofParts w).toNumeric = .ok w := by
  cases w with
  | number n => exact ofParts_number n
  | nan => rfl

/-- **The second check of parts never fails**: a document that is spelled has a wire value, and it
is the document of that value. -/
theorem IsSpelledBy.exists_toNumeric (h : d.IsSpelledBy fields) :
    ∃ w, d.toNumeric = .ok w ∧ ofParts w = d := by
  cases d with
  | number sign weight scale digits =>
      have hnumber : SpellsNumber fields sign weight scale digits := h
      have hflaws : flaws weight scale digits = [] :=
        flaws_eq_nil_iff.2
          ⟨hnumber.weight_bounds, hnumber.scale_bounds, hnumber.digits_bounds⟩
      obtain ⟨w, hw⟩ := exists_ofParts_of_flaws_nil sign hflaws
      obtain ⟨n, rfl, rfl, rfl, rfl, rfl⟩ := ofParts_eq_ok_iff.1 hw
      exact ⟨.number n, hw, rfl⟩
  | nan => exact ⟨.nan, rfl, rfl⟩

/-- The fields of the document of a wire value. -/
def fieldsOf : Numeric → List (String × Json)
  | .number n => partFields n.sign n.weight n.scale (n.digits.map Int.ofNat)
  | .nan => [("sign", .string nanText)]

theorem toJson_ofParts (w : Numeric) : (ofParts w).toJson = .object (fieldsOf w) := by
  cases w <;> rfl

/-- The parts of a wire value are without a flaw. -/
theorem flaws_of_number (n : Number) :
    flaws n.weight n.scale (n.digits.map Int.ofNat) = [] := by
  refine flaws_eq_nil_iff.2
    ⟨n.weight_bounds, ⟨Int.natCast_nonneg _, Int.ofNat_le.2 n.scale_le⟩, ?_⟩
  intro d hd
  obtain ⟨e, he, rfl⟩ := List.mem_map.1 hd
  exact ⟨Int.natCast_nonneg e, Int.ofNat_le.2 (n.digits_le e he)⟩

/-- The document of a wire value spells it. -/
theorem isSpelledBy_fieldsOf (w : Numeric) : (ofParts w).IsSpelledBy (fieldsOf w) := by
  cases w with
  | number n => exact isSpelledBy_partFields n.sign (flaws_of_number n)
  | nan => exact ⟨rfl, fun name hname => List.mem_singleton.1 hname⟩

/-! ### What is read from a value -/

/-- The wire value of a JSON value from the given source. -/
def readValue (source : Source) (v : Json) : Except Fault Numeric :=
  match orFault (check source v.distinct) with
  | .ok d => d.toNumeric
  | .error fault => .error fault

theorem ofJson_eq_readValue (v : Json) : Numeric.ofJson v = readValue .value v := rfl

theorem ofJsonText_of_some (h : Json.ofText? .strict s = some v) :
    Numeric.ofJsonText s = readValue .text v := by
  rw [Numeric.ofJsonText, ofText, h]
  rfl

theorem ofJsonText_of_none (h : Json.ofText? .strict s = none) :
    Numeric.ofJsonText s = .error (.invalidDocument [⟨[], .malformedText⟩]) := by
  rw [Numeric.ofJsonText, ofText, h]
  rfl

/-- **The answer to a value**: the wire value that it spells, or issues. -/
theorem readValue_answer (source : Source) (v : Json) :
    (∃ fields w, v = .object fields ∧ (ofParts w).IsSpelledBy fields ∧
        readValue source v = .ok w) ∨
      ∃ issues, issues ≠ [] ∧ readValue source v = .error (.invalidDocument issues) := by
  unfold readValue
  rcases check_answer source v with ⟨fields, d, hv, hd, hcheck⟩ | ⟨issues, hne, hcheck⟩
  · obtain ⟨w, hw, rfl⟩ := hd.exists_toNumeric
    rw [hcheck]
    exact Or.inl ⟨fields, w, hv, hd, hw⟩
  · rw [hcheck]
    exact Or.inr ⟨issues, hne, rfl⟩

theorem IsSpelledBy.readValue_eq (source : Source) (h : (ofParts w).IsSpelledBy fields) :
    readValue source (.object fields) = .ok w := by
  rw [readValue, h.check_eq]
  exact toNumeric_ofParts w

/-- A value is accepted just if it is an object that spells a wire value. -/
theorem readValue_eq_ok_iff :
    readValue source v = .ok w ↔
      ∃ fields, v = .object fields ∧ (ofParts w).IsSpelledBy fields := by
  constructor
  · intro h
    unfold readValue at h
    cases hcheck : check source v.distinct with
    | error issues =>
        rw [hcheck] at h
        simp [orFault] at h
    | ok d =>
        rw [hcheck] at h
        obtain ⟨fields, hv, hd⟩ := check_eq_ok_iff.1 hcheck
        obtain ⟨w', hw', rfl⟩ := hd.exists_toNumeric
        obtain rfl : w' = w := Except.ok.inj (hw'.symm.trans h)
        exact ⟨fields, hv, hd⟩
  · rintro ⟨fields, rfl, hw⟩
    exact hw.readValue_eq source

/-- A document has no field of a name that its variant does not have. -/
theorem IsSpelledBy.names (h : d.IsSpelledBy fields) {name : String}
    (hname : name ∈ fields.map Prod.fst) : name ∈ ["sign", "weight", "scale", "digits"] := by
  cases d with
  | number sign weight scale digits =>
      have hnumber : SpellsNumber fields sign weight scale digits := h
      exact hnumber.names name hname
  | nan =>
      have hnan : SpellsNan fields := h
      simp [hnan.names name hname]

theorem IsSpelledBy.names_of_nan (h : d.IsSpelledBy fields)
    (hsign : Json.field? "sign" fields = some (.string nanText)) {name : String}
    (hname : name ∈ fields.map Prod.fst) : name = "sign" := by
  cases d with
  | number sign weight scale digits =>
      have hnumber : SpellsNumber fields sign weight scale digits := h
      have hne : signText sign ≠ nanText := by cases sign <;> decide
      rw [hnumber.sign] at hsign
      simp [hne] at hsign
  | nan =>
      have hnan : SpellsNan fields := h
      exact hnan.names name hname

end Document

namespace Numeric

open Document

variable {v? : Option Json} {outcome : Except Fault Numeric} {w : Numeric}

/-! ### The document of a wire value -/

/-- A wire value is never refused a document. -/
theorem toJson_eq (w : Numeric) : w.toJson = .ok (Document.ofParts w).toJson := by
  have hcheck : Document.ofJson (Document.ofParts w).toJson = .ok (Document.ofParts w) := by
    rw [toJson_ofParts]
    exact (isSpelledBy_fieldsOf w).check_eq .value
  rw [toJson, ofNumeric, hcheck]
  rfl

/-- **The document of a wire value gives it back.** -/
theorem ofJson_toJson_ofParts (w : Numeric) : ofJson (Document.ofParts w).toJson = .ok w := by
  rw [toJson_ofParts, ofJson_eq_readValue, (isSpelledBy_fieldsOf w).readValue_eq]

/-! ### Safe reading -/

/-- What may come of untrusted JSON: `outcome` is the answer to the value `v?`, or to a text that
is no JSON. -/
structure ReadsSafely (v? : Option Json) (outcome : Except Fault Numeric) : Prop where
  /-- There is no other fault than that of an invalid document, and it comes with issues. -/
  answer : (∃ w, outcome = .ok w) ∨
    ∃ issues, issues ≠ [] ∧ outcome = .error (.invalidDocument issues)
  /-- What is accepted is spelled by the value, and what is spelled is accepted. -/
  spelled : ∀ w, outcome = .ok w ↔
    ∃ fields, v? = some (.object fields) ∧ (Document.ofParts w).IsSpelledBy fields
  /-- An accepted number is within the bounds of the wire. -/
  bounds : ∀ n : Number, outcome = .ok (.number n) →
    (-32768 ≤ n.weight ∧ n.weight ≤ 32767) ∧ n.scale ≤ 65535 ∧ ∀ d ∈ n.digits, d ≤ 9999
  /-- What was accepted has a document, which is accepted as the same. -/
  stable : ∀ w, outcome = .ok w → ∃ u, w.toJson = .ok u ∧ ofJson u = .ok w
  /-- An object with a field of a foreign name is refused. -/
  foreign : ∀ fields name, v? = some (.object fields) → name ∈ fields.map Prod.fst →
    name ∉ ["sign", "weight", "scale", "digits"] → ∀ w, outcome ≠ .ok w
  /-- Not-a-number with any field but its sign is refused. -/
  foreign_nan : ∀ fields name, v? = some (.object fields) →
    Json.field? "sign" fields = some (.string "nan") → name ∈ fields.map Prod.fst →
    name ≠ "sign" → ∀ w, outcome ≠ .ok w

/-- An answer is safe if it is one or the other, and just what is spelled is accepted. -/
theorem ReadsSafely.of_spelled
    (answer : (∃ w, outcome = .ok w) ∨
      ∃ issues, issues ≠ [] ∧ outcome = .error (.invalidDocument issues))
    (spelled : ∀ w, outcome = .ok w ↔
      ∃ fields, v? = some (.object fields) ∧ (Document.ofParts w).IsSpelledBy fields) :
    ReadsSafely v? outcome where
  answer := answer
  spelled := spelled
  bounds n _ := ⟨n.weight_bounds, n.scale_le, n.digits_le⟩
  stable w _ := ⟨_, w.toJson_eq, w.ofJson_toJson_ofParts⟩
  foreign := by
    intro fields name hv hname hforeign w hw
    obtain ⟨fields', hv', hspelled⟩ := (spelled w).1 hw
    obtain rfl : fields = fields' := by simpa [hv] using hv'
    exact hforeign (hspelled.names hname)
  foreign_nan := by
    intro fields name hv hsign hname hforeign w hw
    obtain ⟨fields', hv', hspelled⟩ := (spelled w).1 hw
    obtain rfl : fields = fields' := by simpa [hv] using hv'
    exact hforeign (hspelled.names_of_nan hsign hname)

theorem readsSafely_readValue (source : Source) (v : Json) :
    ReadsSafely (some v) (readValue source v) := by
  refine .of_spelled ?_ ?_
  · rcases readValue_answer source v with ⟨fields, w, -, -, hread⟩ | hissues
    · exact Or.inl ⟨w, hread⟩
    · exact Or.inr hissues
  · intro w
    rw [readValue_eq_ok_iff]
    simp

theorem readsSafely_none :
    ReadsSafely none (.error (.invalidDocument [⟨[], .malformedText⟩])) :=
  .of_spelled (Or.inr ⟨_, by simp, rfl⟩) (by simp)

/-- **Untrusted JSON is read safely**, as a value in memory and as a text. -/
theorem readsSafely :
    (∀ v : Json, ReadsSafely (some v) (ofJson v)) ∧
    (∀ s : String, ReadsSafely (Json.ofText? .strict s) (ofJsonText s)) := by
  constructor
  · intro v
    rw [ofJson_eq_readValue]
    exact readsSafely_readValue .value v
  · intro s
    cases hs : Json.ofText? .strict s with
    | none =>
        rw [ofJsonText_of_none hs]
        exact readsSafely_none
    | some v =>
        rw [ofJsonText_of_some hs]
        exact readsSafely_readValue .text v

/-- Values that are taken for integers, and a field too many. -/
theorem readsSafely_coerced :
    (∃ w, ofJson (.object [("sign", .string "negative"), ("weight", .bool true),
        ("scale", .string " 07.0 "), ("digits", .list [.int 12, .string "1_0"])]) = .ok w ∧
      Document.ofParts w = .number .negative 1 7 [12, 10]) ∧
    (∀ w, ofJson (.object [("sign", .string "nan"), ("weight", .int 0)]) ≠ .ok w) := by
  obtain ⟨hvalue, -⟩ := readsSafely
  constructor
  · have hspelled : (Document.number .negative 1 7 [12, 10]).IsSpelledBy
        [("sign", .string "negative"), ("weight", .bool true), ("scale", .string " 07.0 "),
          ("digits", .list [.int 12, .string "1_0"])] :=
      { sign := rfl
        weight := ⟨.bool true, rfl, rfl⟩
        weight_bounds := by decide
        scale := ⟨.string " 07.0 ", rfl, rfl⟩
        scale_bounds := by decide
        digits := ⟨[.int 12, .string "1_0"], rfl, rfl⟩
        digits_bounds := by decide
        names := by decide }
    obtain ⟨w, -, hw⟩ := hspelled.exists_toNumeric
    exact ⟨w, ((hvalue _).spelled w).2 ⟨_, rfl, hw ▸ hspelled⟩, hw⟩
  · exact (hvalue _).foreign_nan _ "weight" rfl rfl (by decide) (by decide)

end Numeric

end NumericWire
