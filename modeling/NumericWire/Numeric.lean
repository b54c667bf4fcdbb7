import NumericWire.Base10000
import NumericWire.Fault
/-!
# NumericWire.Numeric

**Wire values of the NUMERIC type.** A number on the wire is a sign, a weight, a scale and
base-10000 digits, most significant first. The weight is the power of 10000 of the first
digit; the scale is the number of decimal places the value is shown with and says nothing
about its magnitude. Besides numbers there is not-a-number.

The bounds of the wire header and the range of a digit are part of the type, so a wire
value that exists is a valid one. `Number.ofParts` checks parts from elsewhere, in the
order weight, scale, digits; it names the first flaw it meets.
-/

namespace NumericWire

namespace Numeric

/-- The smallest weight: that of a signed 16-bit field. -/
def minWeight : Int := -32768

/-- The largest weight: that of a signed 16-bit field. -/
def maxWeight : Int := 32767

/-- The largest scale: that of an unsigned 16-bit field. -/
def maxScale : Nat := 65535

/-- A number on the wire. Digits may have leading and trailing zeros, or be absent. -/
structure Number where
  sign : Sign
  weight : Int
  scale : Nat
  digits : List Nat
  weight_bounds : minWeight ≤ weight ∧ weight ≤ maxWeight
  scale_le : scale ≤ maxScale
  digits_le : ∀ d ∈ digits, d ≤ Base10000.maxDigit
  deriving DecidableEq, Repr

end Numeric

/-- A value on the wire. -/
inductive Numeric
  | number (n : Numeric.Number)
  | nan
  deriving DecidableEq, Repr

namespace Numeric

/-- The one form of zero that decimals are turned into. -/
def Number.zero : Number := ⟨.positive, 0, 0, [0], by decide, by decide, by decide⟩

/-- Zero, whatever its sign and exponent were. -/
def zero : Numeric := .number .zero

/-- What is offered as a digit: an integer, or something else of which only the kind
matters. -/
inductive Candidate
  | int (d : Int)
  | other (kind : Kind)
  deriving DecidableEq, Repr

namespace Candidate

/-- What is wrong with a candidate at a position, if anything is. -/
def flaw? (position : Nat) : Candidate → Option Flaw
  | int d =>
    if 0 ≤ d ∧ d ≤ Base10000.maxDigit then none else some (.digitRange position d)
  | other kind => some (.digitKind position kind)

/-- The digit that a candidate without a flaw is. -/
def digit : Candidate → Nat
  | int d => d.toNat
  | other _ => 0

theorem digit_le_of_flaw? {position : Nat} {c : Candidate} (h : c.flaw? position = none) :
    c.digit ≤ Base10000.maxDigit := by
  cases c with
  | int d =>
    simp only [flaw?] at h
    split at h
    · simp only [digit]; omega
    · simp at h
  | other kind => simp [flaw?] at h

/-- The first flaw among candidates that start at a position. -/
def firstFlaw? (position : Nat) : List Candidate → Option Flaw
  | [] => none
  | c :: rest =>
    match c.flaw? position with
    | some flaw => some flaw
    | none => firstFlaw? (position + 1) rest

theorem digits_le_of_firstFlaw? {position : Nat} {cs : List Candidate}
    (h : firstFlaw? position cs = none) : ∀ d ∈ cs.map digit, d ≤ Base10000.maxDigit := by
  induction cs generalizing position with
  | nil => simp
  | cons c rest ih =>
    rw [firstFlaw?] at h
    split at h
    · simp at h
    · rename_i hc
      simpa using ⟨digit_le_of_flaw? hc, by simpa using ih h⟩

/-- Integers are without a flaw just if all of them are in range. -/
theorem firstFlaw?_int_eq_none_iff {position : Nat} {ds : List Int} :
    firstFlaw? position (ds.map .int) = none ↔ ∀ d ∈ ds, 0 ≤ d ∧ d ≤ Base10000.maxDigit := by
  induction ds generalizing position with
  | nil => simp [firstFlaw?]
  | cons d ds ih =>
    rw [List.map_cons, firstFlaw?, List.forall_mem_cons, ← @ih (position + 1)]
    by_cases hd : 0 ≤ d ∧ d ≤ Base10000.maxDigit <;> simp [flaw?, hd]

/-- Digits in range have no flaw. -/
theorem firstFlaw?_map_int {position : Nat} {ds : List Nat}
    (h : ∀ d ∈ ds, d ≤ Base10000.maxDigit) :
    firstFlaw? position (ds.map fun d : Nat => .int d) = none := by
  have hmap : (ds.map fun d : Nat => Candidate.int d) = (ds.map Int.ofNat).map .int := by simp
  rw [hmap, firstFlaw?_int_eq_none_iff]
  intro d hd
  obtain ⟨e, he, rfl⟩ := List.mem_map.1 hd
  exact ⟨Int.natCast_nonneg e, Int.ofNat_le.2 (h e he)⟩

/-- The first flaw of integers is at the first of them that is out of range. -/
theorem firstFlaw?_int_append_cons {position : Nat} {front rest : List Int} {d : Int}
    (hfront : ∀ e ∈ front, 0 ≤ e ∧ e ≤ Base10000.maxDigit)
    (hd : ¬ (0 ≤ d ∧ d ≤ Base10000.maxDigit)) :
    firstFlaw? position ((front ++ d :: rest).map .int) =
      some (.digitRange (position + front.length) d) := by
  induction front generalizing position with
  | nil => simp [firstFlaw?, flaw?, hd]
  | cons e front ih =>
    obtain ⟨he, hfront⟩ := List.forall_mem_cons.1 hfront
    rw [List.cons_append, List.map_cons, firstFlaw?, flaw?, if_pos he, ih hfront, List.length_cons]
    simp only [Option.some.injEq, Flaw.digitRange.injEq, and_true]
    omega

end Candidate

namespace Number

/-- Checks parts and puts them together; the error is the first flaw in the order weight,
scale, digits. -/
def ofParts (sign : Sign) (weight scale : Int) (digits : List Candidate) :
    Except Flaw Number :=
  if hw : minWeight ≤ weight ∧ weight ≤ maxWeight then
    if hs : 0 ≤ scale ∧ scale ≤ maxScale then
      match hd : Candidate.firstFlaw? 0 digits with
      | some flaw => .error flaw
      | none =>
        .ok ⟨sign, weight, scale.toNat, digits.map Candidate.digit, hw, by omega,
          Candidate.digits_le_of_firstFlaw? hd⟩
    else .error (.scale scale)
  else .error (.weight weight)

/-- The parts of a number are accepted, and give it back. -/
theorem ofParts_parts (n : Number) :
    ofParts n.sign n.weight n.scale (n.digits.map fun d : Nat => .int d) = .ok n := by
  have hs := n.scale_le
  have hscale : (0 : Int) ≤ n.scale ∧ (n.scale : Int) ≤ maxScale := by omega
  have hdigits : (n.digits.map fun d : Nat => Candidate.int d).map Candidate.digit = n.digits := by
    simp [Function.comp_def, Candidate.digit]
  unfold ofParts
  rw [dif_pos n.weight_bounds, dif_pos hscale]
  split
  · rename_i hflaw
    rw [Candidate.firstFlaw?_map_int n.digits_le] at hflaw
    exact absurd hflaw (by simp)
  · simp [hdigits]

/-- The digits of an accepted number are the integers that were offered. -/
theorem ofParts_eq_ok {sign : Sign} {weight scale : Int} {digits : List Int} {n : Number}
    (h : ofParts sign weight scale (digits.map .int) = .ok n) :
    n.sign = sign ∧ n.weight = weight ∧ (n.scale : Int) = scale ∧
      n.digits.map Int.ofNat = digits := by
  unfold ofParts at h
  split at h
  · split at h
    · rename_i hscale
      split at h
      · simp at h
      · rename_i hflaw
        rw [Candidate.firstFlaw?_int_eq_none_iff] at hflaw
        obtain rfl := Except.ok.inj h
        refine ⟨rfl, rfl, Int.toNat_of_nonneg hscale.1, ?_⟩
        have hread : ((digits.map Candidate.int).map Candidate.digit).map Int.ofNat =
            digits.map id := by
          rw [List.map_map, List.map_map]
          exact List.map_congr_left fun d hd => Int.toNat_of_nonneg (hflaw d hd).1
        rw [hread, List.map_id]
    · simp at h
  · simp at h

/-- The same number with the opposite sign. -/
def negate (n : Number) : Number := { n with sign := n.sign.flip }

end Number

/-- A number from parts, with integers as digits. -/
def ofParts (sign : Sign) (weight scale : Int) (digits : List Int) : Except Fault Numeric :=
  match Number.ofParts sign weight scale (digits.map .int) with
  | .ok n => .ok (.number n)
  | .error flaw => .error (.invalidWireValue flaw)

/-- The parts of a number, with its digits as integers, are accepted. -/
theorem ofParts_number (n : Number) :
    ofParts n.sign n.weight n.scale (n.digits.map Int.ofNat) = .ok (.number n) := by
  have hparts := n.ofParts_parts
  have hdigits : (n.digits.map Int.ofNat).map Candidate.int =
      n.digits.map fun d : Nat => Candidate.int d := by simp
  rw [ofParts, hdigits, hparts]

/-- **What parts are accepted**: those of a number, and they give that number. -/
theorem ofParts_eq_ok_iff {sign : Sign} {weight scale : Int} {digits : List Int} {w : Numeric} :
    ofParts sign weight scale digits = .ok w ↔
      ∃ n : Number, w = .number n ∧ n.sign = sign ∧ n.weight = weight ∧ (n.scale : Int) = scale ∧
        n.digits.map Int.ofNat = digits := by
  constructor
  · intro h
    unfold ofParts at h
    split at h
    · rename_i n hn
      exact ⟨n, (Except.ok.inj h).symm, Number.ofParts_eq_ok hn⟩
    · simp at h
  · rintro ⟨n, rfl, rfl, rfl, rfl, rfl⟩
    exact ofParts_number n

/-- Of parts that fit the wire header the digits alone can be at fault. -/
theorem ofParts_of_firstFlaw? {sign : Sign} {weight : Int} {scale : Nat} {digits : List Int}
    {flaw : Flaw} (hweight : minWeight ≤ weight ∧ weight ≤ maxWeight) (hscale : scale ≤ maxScale)
    (h : Candidate.firstFlaw? 0 (digits.map .int) = some flaw) :
    ofParts sign weight scale digits = .error (.invalidWireValue flaw) := by
  have hscale' : (0 : Int) ≤ scale ∧ (scale : Int) ≤ maxScale := by omega
  have hparts : Number.ofParts sign weight scale (digits.map .int) = .error flaw := by
    unfold Number.ofParts
    rw [dif_pos hweight, dif_pos hscale']
    split
    · rename_i hflaw
      rw [h] at hflaw
      rw [Option.some.inj hflaw]
    · rename_i hflaw
      simp [h] at hflaw
  rw [ofParts, hparts]

/-- The kind of a wire value. -/
def kind : Numeric → Kind
  | number n =>
    match n.sign with
    | .positive => .positive
    | .negative => .negative
  | nan => .notANumber

/-- The 16-bit tag that stands for a sign on the wire. -/
def signTag : Sign → Nat
  | .positive => 0x0000
  | .negative => 0x4000

theorem signTag_injective {s t : Sign} (h : signTag s = signTag t) : s = t := by
  cases s <;> cases t <;> simp [signTag] at h ⊢

/-- The 16-bit tag that stands for not-a-number on the wire. -/
def nanTag : Nat := 0xC000

end Numeric

end NumericWire
