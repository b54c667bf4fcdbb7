import NumericWire.Numeric
/-!
# NumericWire.Settings

**Settings** decide which decimals may become wire values; they never change the wire
value that an accepted decimal becomes.
-/

namespace NumericWire

/-- Which decimals may become wire values. -/
@[ext]
structure Settings where
  /-- Whether not-a-number is accepted. -/
  encodeNan : Bool := true
  /-- The largest number of decimal places that is accepted. -/
  maxScale : Nat := Numeric.maxScale
  maxScale_le : maxScale ≤ Numeric.maxScale := by decide
  deriving Repr

namespace Settings

instance : DecidableEq Settings := fun _ _ => decidable_of_iff' _ Settings.ext_iff

/-- Everything that fits the wire header is accepted. -/
def default : Settings := {}

instance : Inhabited Settings := ⟨default⟩

/-- Checks that a largest scale fits the wire header. -/
def ofParts (encodeNan : Bool) (maxScale : Int) : Except Fault Settings :=
  if h : 0 ≤ maxScale ∧ maxScale ≤ Numeric.maxScale then
    .ok ⟨encodeNan, maxScale.toNat, by omega⟩
  else .error (.maxScale maxScale)

end Settings

end NumericWire
