import NumericWire.Numeral
import NumericWire.Sign
/-!
# NumericWire.Decimal

**Exact decimals.** A decimal is a sign, a natural coefficient and a decimal exponent;
`1.10` and `1.1` are different decimals of the same value, and nothing here rounds.
`Quantity` adds what is not a number of that kind: the infinities and not-a-number.

* `Decimal.adjusted` — the power of ten of the leading decimal digit.
* `Decimal.scale`, `Decimal.unscaled` — the decimal as an integer over a power of ten,
  with a positive exponent multiplied in.
-/

namespace NumericWire

-- Powers are those of the core library, whatever else is imported.
attribute [local instance (2000)] instPowNat

/-- The finite decimal `± coefficient · 10 ^ exponent`. -/
structure Decimal where
  sign : Sign
  coefficient : Nat
  exponent : Int
  deriving DecidableEq, Repr

namespace Decimal

/-- An integer, as a decimal of exponent 0. -/
def ofInt (n : Int) : Decimal := ⟨Sign.ofInt n, n.natAbs, 0⟩

/-- The same magnitude with the opposite sign. -/
def negate (x : Decimal) : Decimal := { x with sign := x.sign.flip }

@[simp] theorem negate_negate (x : Decimal) : x.negate.negate = x := by simp [negate]

/-- Zero of any sign and exponent. -/
def IsZero (x : Decimal) : Prop := x.coefficient = 0

instance (x : Decimal) : Decidable x.IsZero := inferInstanceAs (Decidable (_ = _))

/-- How many decimal digits the coefficient has; zero has one. -/
def digitCount (x : Decimal) : Nat := Numeral.length x.coefficient

/-- The power of ten of the leading digit of the coefficient. -/
def adjusted (x : Decimal) : Int := x.exponent + x.digitCount - 1

/-- The decimal places behind the point: none for an exponent that is not negative. -/
def scale (x : Decimal) : Nat := (-x.exponent).toNat

/-- The magnitude times `10 ^ scale`, an integer. Of the two exponents, the one in this
power and the one in the scale, at most one is not zero. -/
def unscaled (x : Decimal) : Nat := x.coefficient * 10 ^ x.exponent.toNat

end Decimal

/-- A finite decimal, an infinity, or not-a-number (quiet or signaling). -/
inductive Quantity
  | finite (x : Decimal)
  | infinity (sign : Sign)
  | nan (signaling : Bool)
  deriving DecidableEq, Repr

end NumericWire
