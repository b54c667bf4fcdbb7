import Mathlib
import NumericWire.Numeric
/-!
# NumericWire.Numeric.Value

**The value of a number on the wire**, by place value: a digit counts as often as the
power of 10000 of its place says, and places descend from the weight. Leading and trailing
zeros, and digits that are missing, make no difference to it.

* `placeValue_eq` — the value as one integer, the one that the digits stand for, times a
  power of 10000.
-/

namespace NumericWire

namespace Base10000

/-- The value of digits whose first one has the given power of the base. -/
def placeValue : Int → List Nat → ℚ
  | _, [] => 0
  | place, d :: ds => d * (base : ℚ) ^ place + placeValue (place - 1) ds

@[simp] theorem placeValue_nil (place : Int) : placeValue place [] = 0 := rfl

@[simp] theorem placeValue_cons (place : Int) (d : Nat) (ds : List Nat) :
    placeValue place (d :: ds) = d * (base : ℚ) ^ place + placeValue (place - 1) ds := rfl

theorem base_cast_ne_zero : (base : ℚ) ≠ 0 := by norm_num [base]

/-- The digits count as the integer that they stand for, moved to the place of the last. -/
theorem placeValue_eq (place : Int) (ds : List Nat) :
    placeValue place ds = ofDigits ds * (base : ℚ) ^ (place - ds.length + 1) := by
  induction ds generalizing place with
  | nil => simp
  | cons d ds ih =>
    have hplace : (base : ℚ) ^ place = base ^ ds.length * (base : ℚ) ^ (place - ds.length) := by
      rw [← zpow_natCast, ← zpow_add₀ base_cast_ne_zero]
      congr 1
      omega
    have hrest : place - 1 - (ds.length : Int) + 1 = place - ds.length := by omega
    have hall : place - ((d :: ds).length : Int) + 1 = place - ds.length := by
      rw [List.length_cons]
      omega
    rw [placeValue_cons, ih, hrest, hall, hplace, ofDigits_cons]
    push_cast
    ring

end Base10000

namespace Numeric

/-- The rational number that a number on the wire stands for. -/
def Number.value (n : Number) : ℚ := n.sign.apply 1 * Base10000.placeValue n.weight n.digits

end Numeric

end NumericWire
