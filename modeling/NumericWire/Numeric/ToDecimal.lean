import NumericWire.Decimal
import NumericWire.Numeric
/-!
# NumericWire.Numeric.ToDecimal

**From wire values to decimals**, without rounding. The coefficient is the integer that
the digits stand for, and the exponent puts its last digit where the weight of the first
one says. The scale is not consulted, so the zeros that fill up the last digit stay.
-/

namespace NumericWire

namespace Numeric

/-- The decimal of a number on the wire. Of the digits, the first has the power
`10000 ^ weight` and the last the power `10000 ^ (weight - length + 1)`. -/
def Number.toDecimal (n : Number) : Decimal :=
  ⟨n.sign, Base10000.ofDigits n.digits,
    Base10000.decimalsPerDigit * (n.weight - n.digits.length + 1)⟩

/-- The decimal of a wire value; not-a-number has none. -/
def toDecimal : Numeric → Except Fault Decimal
  | number n => .ok n.toDecimal
  | nan => .error (.unsupported .nanValue)

/-- The scale is not consulted. -/
theorem Number.toDecimal_congr {m n : Number} (hs : m.sign = n.sign) (hw : m.weight = n.weight)
    (hd : m.digits = n.digits) : m.toDecimal = n.toDecimal := by
  simp [toDecimal, hs, hw, hd]

end Numeric

end NumericWire
