/-!
# NumericWire.Sign

The sign of a number, kept apart from its magnitude: decimals and wire values both
tell a **negative zero** from a positive one, so a sign is not read off an integer.
-/

namespace NumericWire

/-- The two signs a number can carry. -/
inductive Sign
  | positive
  | negative
  deriving DecidableEq, Repr

namespace Sign

/-- The opposite sign. -/
def flip : Sign → Sign
  | positive => negative
  | negative => positive

@[simp] theorem flip_flip (s : Sign) : s.flip.flip = s := by cases s <;> rfl

/-- The sign of an integer; zero is positive. -/
def ofInt (n : Int) : Sign := if n < 0 then negative else positive

/-- The integer with this sign and the given magnitude. -/
def apply (s : Sign) (magnitude : Nat) : Int :=
  match s with
  | positive => magnitude
  | negative => -magnitude

@[simp] theorem apply_positive (n : Nat) : positive.apply n = n := rfl

@[simp] theorem apply_negative (n : Nat) : negative.apply n = -n := rfl

/-- An integer is its sign applied to its magnitude. -/
theorem apply_ofInt_natAbs (n : Int) : (ofInt n).apply n.natAbs = n := by
  unfold ofInt
  split
  · simp only [apply_negative]; omega
  · simp only [apply_positive]; omega

/-- A minus sign in front of a negative number's text, and nothing in front of a
positive one's. -/
def mark : Sign → String
  | positive => ""
  | negative => "-"

end Sign

end NumericWire
