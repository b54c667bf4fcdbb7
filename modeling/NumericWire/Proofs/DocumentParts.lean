import NumericWire.Proofs.DocumentCheck
/-!
# NumericWire.Proofs.DocumentParts

**The two checks of parts agree.** Parts of a number are checked twice in this library: where a
wire value is put together, which stops at the first flaw, and where a document is read, which
collects all issues. Both are described here by one list, that of the flaws in the order weight,
scale, digits (`Numeric.flaws`): the first check answers with its head, the second with one issue
for each of its members. So both accept the same parts, and where they refuse them the first issue
is about the same part as the flaw.
-/

namespace NumericWire

namespace Numeric

/-! ### The flaws of parts -/

/-- The flaws of digits that start at a position: those digits that are out of range. -/
def digitFlaws (position : Nat) (digits : List Int) : List Flaw :=
  (digits.zipIdx position).filterMap fun (d, p) =>
    if 0 ≤ d ∧ d ≤ Base10000.maxDigit then none else some (.digitRange p d)

/-- All flaws of parts, in the order weight, scale, digits. -/
def flaws (weight scale : Int) (digits : List Int) : List Flaw :=
  (if minWeight ≤ weight ∧ weight ≤ maxWeight then [] else [.weight weight]) ++
    (if 0 ≤ scale ∧ scale ≤ maxScale then [] else [.scale scale]) ++ digitFlaws 0 digits

variable {sign : Sign} {weight scale d : Int} {digits : List Int} {position : Nat} {flaw : Flaw}

theorem digitFlaws_cons_of_range (h : 0 ≤ d ∧ d ≤ Base10000.maxDigit) :
    digitFlaws position (d :: digits) = digitFlaws (position + 1) digits := by
  rw [digitFlaws, List.zipIdx_cons, List.filterMap_cons_none]
  · rfl
  · simp [h]

theorem digitFlaws_cons_of_not_range (h : ¬ (0 ≤ d ∧ d ≤ Base10000.maxDigit)) :
    digitFlaws position (d :: digits) =
      .digitRange position d :: digitFlaws (position + 1) digits := by
  rw [digitFlaws, List.zipIdx_cons, List.filterMap_cons_some]
  · rfl
  · simp only [if_neg h]

/-- Where all digits are offered as integers, the first flaw is the head of all flaws. -/
theorem firstFlaw?_int (position : Nat) (digits : List Int) :
    Candidate.firstFlaw? position (digits.map .int) = (digitFlaws position digits).head? := by
  induction digits generalizing position with
  | nil => rfl
  | cons d digits ih =>
      rw [List.map_cons, Candidate.firstFlaw?]
      by_cases hd : 0 ≤ d ∧ d ≤ Base10000.maxDigit
      · rw [digitFlaws_cons_of_range hd, Candidate.flaw?, if_pos hd]
        exact ih (position + 1)
      · rw [digitFlaws_cons_of_not_range hd, Candidate.flaw?, if_neg hd]
        rfl

theorem digitFlaws_eq_nil_iff :
    digitFlaws position digits = [] ↔ ∀ d ∈ digits, 0 ≤ d ∧ d ≤ Base10000.maxDigit := by
  rw [← List.head?_eq_none_iff, ← firstFlaw?_int, Candidate.firstFlaw?_int_eq_none_iff]

theorem flaws_eq_nil_iff :
    flaws weight scale digits = [] ↔
      (minWeight ≤ weight ∧ weight ≤ maxWeight) ∧ (0 ≤ scale ∧ scale ≤ maxScale) ∧
        ∀ d ∈ digits, 0 ≤ d ∧ d ≤ Base10000.maxDigit := by
  rw [flaws, List.append_eq_nil_iff, List.append_eq_nil_iff, digitFlaws_eq_nil_iff, and_assoc]
  simp

/-! ### Putting parts together -/

/-- The flaw at which the check of parts stops is the first. -/
theorem numberOfParts_error (h : (flaws weight scale digits).head? = some flaw) :
    Number.ofParts sign weight scale (digits.map .int) = .error flaw := by
  unfold Number.ofParts
  by_cases hweight : minWeight ≤ weight ∧ weight ≤ maxWeight
  · by_cases hscale : 0 ≤ scale ∧ scale ≤ maxScale
    · rw [flaws, if_pos hweight, if_pos hscale, List.nil_append, List.nil_append,
        ← firstFlaw?_int] at h
      rw [dif_pos hweight, dif_pos hscale]
      split
      · rename_i hflaw
        rw [h] at hflaw
        rw [Option.some.inj hflaw]
      · rename_i hflaw
        simp [h] at hflaw
    · rw [flaws, if_pos hweight, if_neg hscale] at h
      rw [dif_pos hweight, dif_neg hscale, ← Option.some.inj h]
  · rw [flaws, if_neg hweight] at h
    rw [dif_neg hweight, ← Option.some.inj h]

theorem ofParts_of_flaws_cons (sign : Sign) {rest : List Flaw}
    (h : flaws weight scale digits = flaw :: rest) :
    ofParts sign weight scale digits = .error (.invalidWireValue flaw) := by
  rw [ofParts, numberOfParts_error (by rw [h]; rfl)]

theorem exists_ofParts_of_flaws_nil (sign : Sign) (h : flaws weight scale digits = []) :
    ∃ w, ofParts sign weight scale digits = .ok w := by
  obtain ⟨hweight, hscale, hdigits⟩ := flaws_eq_nil_iff.1 h
  have hle : ∀ d ∈ digits.map Int.toNat, d ≤ Base10000.maxDigit := by
    intro d hd
    obtain ⟨e, he, rfl⟩ := List.mem_map.1 hd
    exact Int.toNat_le.2 (hdigits e he).2
  have hread : (digits.map Int.toNat).map Int.ofNat = digits.map id := by
    rw [List.map_map]
    exact List.map_congr_left fun d hd => Int.toNat_of_nonneg (hdigits d hd).1
  let n : Number :=
    ⟨sign, weight, scale.toNat, digits.map Int.toNat, hweight, Int.toNat_le.2 hscale.2, hle⟩
  refine ⟨.number n, ofParts_eq_ok_iff.2 ⟨n, rfl, rfl, rfl, Int.toNat_of_nonneg hscale.1, ?_⟩⟩
  rw [hread, List.map_id]

end Numeric

namespace Document

open Numeric

/-! ### The issues of parts -/

/-- The bound that an integer out of range breaks. -/
def brokenBound (least greatest n : Int) : Problem :=
  if n < least then .tooSmall least else .tooLarge greatest

/-- The issue by which a document of the given variant reports a flaw: it is at the field that is
at fault and, for a digit, at its position. -/
def issueOf (variant : String) : Flaw → Issue
  | .weight w => ⟨[.field variant, .field "weight"], brokenBound minWeight maxWeight w⟩
  | .scale s => ⟨[.field variant, .field "scale"], brokenBound 0 maxScale s⟩
  | .digitRange p d =>
    ⟨[.field variant, .field "digits", .item p], brokenBound 0 Base10000.maxDigit d⟩
  | .digitKind p _ => ⟨[.field variant, .field "digits", .item p], .notInteger⟩

variable {source : Source} {sign : Sign} {weight scale least greatest n : Int} {digits : List Int}
  {fields : List (String × Json)} {name : String} {position : Nat}

theorem boundedInteger_int_of_range (h : least ≤ n ∧ n ≤ greatest) :
    boundedInteger least greatest (.int n) = .ok n := by
  have hleast : ¬ n < least := Int.not_lt.2 h.1
  have hgreatest : ¬ greatest < n := Int.not_lt.2 h.2
  simp [boundedInteger, integerOf, hleast, hgreatest]

theorem boundedInteger_int_of_not_range (h : ¬ (least ≤ n ∧ n ≤ greatest)) :
    boundedInteger least greatest (.int n) = .error (brokenBound least greatest n) := by
  unfold brokenBound
  by_cases hleast : n < least
  · simp [boundedInteger, integerOf, hleast]
  · have hgreatest : greatest < n := by omega
    simp [boundedInteger, integerOf, hleast, hgreatest]

/-- The issues of digits that are integers, one for each flaw. -/
theorem digitIssues_int (variant : String) (position : Nat) (digits : List Int) :
    ((digitIssues position (digits.map .int)).map (Issue.under (.field "digits"))).map
        (Issue.under (.field variant)) =
      (digitFlaws position digits).map (issueOf variant) := by
  induction digits generalizing position with
  | nil => rfl
  | cons d digits ih =>
      rw [List.map_cons, digitIssues]
      by_cases hd : 0 ≤ d ∧ d ≤ Base10000.maxDigit
      · rw [digitFlaws_cons_of_range hd, digit, boundedInteger_int_of_range hd]
        exact ih (position + 1)
      · rw [digitFlaws_cons_of_not_range hd, digit, boundedInteger_int_of_not_range hd]
        simp only [List.map_cons, ih]
        rfl

/-- The issue of an integer field, if there is one. -/
theorem issuesOf_integerField_int (h : Json.field? name fields = some (.int n)) :
    issuesOf (integerField least greatest name fields) =
      if least ≤ n ∧ n ≤ greatest then [] else
        [⟨[.field name], brokenBound least greatest n⟩] := by
  rw [integerField, h]
  by_cases hn : least ≤ n ∧ n ≤ greatest
  · simp only [boundedInteger_int_of_range hn, if_pos hn]
    rfl
  · simp only [boundedInteger_int_of_not_range hn, if_neg hn]
    rfl

/-! ### The document of parts -/

/-- The fields of a document of parts. -/
def partFields (sign : Sign) (weight scale : Int) (digits : List Int) : List (String × Json) :=
  [("sign", .string (signText sign)), ("weight", .int weight), ("scale", .int scale),
    ("digits", .list (digits.map .int))]

/-- Integers and a list of them have no names in them, and the names of the fields differ. -/
theorem distinct_partFields (sign : Sign) (weight scale : Int) (digits : List Int) :
    (Json.object (partFields sign weight scale digits)).distinct =
      .object (partFields sign weight scale digits) := by
  have hitems : (digits.map Json.int).map Json.distinct = digits.map Json.int := by
    rw [List.map_map]
    exact List.map_congr_left fun _ _ => rfl
  simp [partFields, Json.distinct, Json.distinctValues, Json.distinctFields, Json.insertField,
    Json.distinctItems_eq_map, hitems]

/-- **The issues of parts**: one for each flaw, in the same order. -/
theorem numberIssues_partFields (source : Source) (sign : Sign) (weight scale : Int)
    (digits : List Int) :
    (numberIssues source (partFields sign weight scale digits)).map
        (Issue.under (.field (signText sign))) =
      (flaws weight scale digits).map (issueOf (signText sign)) := by
  have hweight : Json.field? "weight" (partFields sign weight scale digits) =
      some (.int weight) := rfl
  have hscale : Json.field? "scale" (partFields sign weight scale digits) =
      some (.int scale) := rfl
  have hdigits : Json.field? "digits" (partFields sign weight scale digits) =
      some (.list (digits.map .int)) := rfl
  have hunknown : unknownFields ["sign", "weight", "scale", "digits"]
      (partFields sign weight scale digits) = [] := by simp [unknownFields, partFields]
  rw [numberIssues, flaws, issuesOf_integerField_int hweight, issuesOf_integerField_int hscale,
    issuesOf_digitsField hdigits, hunknown, List.append_nil]
  simp only [List.map_append, digitIssues_int]
  congr 2
  · split <;> rfl
  · split <;> rfl

/-- Parts without a flaw are spelled by their document. -/
theorem isSpelledBy_partFields (sign : Sign) (h : flaws weight scale digits = []) :
    (number sign weight scale digits).IsSpelledBy (partFields sign weight scale digits) := by
  obtain ⟨hweight, hscale, hdigits⟩ := flaws_eq_nil_iff.1 h
  exact
    { sign := rfl
      weight := ⟨.int weight, rfl, rfl⟩
      weight_bounds := hweight
      scale := ⟨.int scale, rfl, rfl⟩
      scale_bounds := hscale
      digits := ⟨digits.map .int, rfl, by rw [List.map_map]; rfl⟩
      digits_bounds := hdigits
      names := fun name hname => hname }

theorem ofJson_partFields_of_flaws_nil (sign : Sign) (h : flaws weight scale digits = []) :
    Numeric.ofJson (.object (partFields sign weight scale digits)) =
      Numeric.ofParts sign weight scale digits := by
  rw [Numeric.ofJson, Document.ofJson, (isSpelledBy_partFields sign h).check_eq]
  rfl

theorem ofJson_partFields_of_flaws_ne_nil (sign : Sign) (h : flaws weight scale digits ≠ []) :
    Numeric.ofJson (.object (partFields sign weight scale digits)) =
      .error (.invalidDocument ((flaws weight scale digits).map (issueOf (signText sign)))) := by
  have hissues := numberIssues_partFields .value sign weight scale digits
  have hne : numberIssues .value (partFields sign weight scale digits) ≠ [] := by
    intro hnil
    rw [hnil] at hissues
    exact h (List.map_eq_nil_iff.1 hissues.symm)
  have hsign : Json.field? "sign" (partFields sign weight scale digits) =
      some (.string (signText sign)) := rfl
  rw [Numeric.ofJson, Document.ofJson, distinct_partFields, check, checkFields_of_sign _ hsign,
    checkNumber_of_issues sign hne, within, hissues]
  rfl

end Document

namespace Numeric

/-- **The two checks of parts agree.** Both accept the parts without a flaw and make the same of
them. Of other parts the one names the first flaw, and the other reports one issue for each flaw,
in the same order; so its first issue is at the part that the flaw names. -/
theorem ofJson_eq_ofParts (sign : Sign) (weight scale : Int) (digits : List Int) :
    let document : Json := .object [("sign", .string (Document.signText sign)),
      ("weight", .int weight), ("scale", .int scale), ("digits", .list (digits.map .int))]
    (∀ w, ofParts sign weight scale digits = .ok w ↔ ofJson document = .ok w) ∧
    (flaws weight scale digits = [] → ∃ w, ofParts sign weight scale digits = .ok w) ∧
    (∀ flaw rest, flaws weight scale digits = flaw :: rest →
      ofParts sign weight scale digits = .error (.invalidWireValue flaw) ∧
      ofJson document = .error (.invalidDocument (Document.issueOf (Document.signText sign) flaw ::
        rest.map (Document.issueOf (Document.signText sign))))) := by
  intro document
  cases hflaws : flaws weight scale digits with
  | nil =>
      have hsame : ofJson document = ofParts sign weight scale digits :=
        Document.ofJson_partFields_of_flaws_nil sign hflaws
      rw [hsame]
      exact ⟨fun w => Iff.rfl, fun _ => exists_ofParts_of_flaws_nil sign hflaws, by simp⟩
  | cons flaw rest =>
      have hparts := ofParts_of_flaws_cons sign hflaws
      have hjson : ofJson document = _ :=
        Document.ofJson_partFields_of_flaws_ne_nil sign (by simp [hflaws])
      rw [hflaws, List.map_cons] at hjson
      rw [hparts, hjson]
      refine ⟨by simp, by simp, ?_⟩
      intro flaw' rest' hcons
      obtain ⟨rfl, rfl⟩ := List.cons.inj hcons
      exact ⟨rfl, rfl⟩

/-- A weight that is too large, a negative scale and two digits out of range. -/
theorem ofJson_eq_ofParts_out_of_range :
    ofParts .negative 40000 (-1) [1, 10000, 2, -5] = .error (.invalidWireValue (.weight 40000)) ∧
    ofJson (.object [("sign", .string "negative"), ("weight", .int 40000), ("scale", .int (-1)),
        ("digits", .list [.int 1, .int 10000, .int 2, .int (-5)])]) =
      .error (.invalidDocument [
        ⟨[.field "negative", .field "weight"], .tooLarge 32767⟩,
        ⟨[.field "negative", .field "scale"], .tooSmall 0⟩,
        ⟨[.field "negative", .field "digits", .item 1], .tooLarge 9999⟩,
        ⟨[.field "negative", .field "digits", .item 3], .tooSmall 0⟩]) := by
  obtain ⟨-, -, hflawed⟩ := ofJson_eq_ofParts .negative 40000 (-1) [1, 10000, 2, -5]
  exact hflawed (.weight 40000) [.scale (-1), .digitRange 1 10000, .digitRange 3 (-5)] rfl

end Numeric

end NumericWire
