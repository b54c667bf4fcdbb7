import NumericWire.Decimal
import NumericWire.Settings
/-!
# NumericWire.Numeric.OfDecimal

**From decimals to wire values**, without rounding. A nonzero decimal is scaled to an
integer whose decimal point falls on a digit boundary (`Decimal.aligned`), which is split
into base-10000 digits; zero digits behind the point are then dropped from the end.

A decimal whose leading digit lies out of reach is refused before any power of ten is
formed, so the work is bounded by the limits of the wire header and the length of the
coefficient, not by the exponent.
-/

namespace NumericWire

-- Powers are those of the core library, whatever else is imported.
attribute [local instance (2000)] instPowNat

namespace Decimal

/-- The power of 10000 of the leading digit: `10 ^ a` lies in the digit `a / 4`, rounded
down. -/
def leadingWeight (x : Decimal) : Int := x.adjusted / Base10000.decimalsPerDigit

/-- The digits that stand behind the point in the aligned integer, always at least one. -/
def fractionDigits (x : Decimal) : Nat := x.scale / Base10000.decimalsPerDigit + 1

/-- The magnitude times `10000 ^ fractionDigits`, an integer: from one to four decimal
zeros put the point on a digit boundary. -/
def aligned (x : Decimal) : Nat :=
  x.unscaled * 10 ^ (Base10000.decimalsPerDigit - x.scale % Base10000.decimalsPerDigit)

end Decimal

namespace Numeric

/-- The list without the zeros at its end. -/
def dropTrailingZeros (ds : List Nat) : List Nat := (ds.reverse.dropWhile (· == 0)).reverse

/-- The digits without the zeros at the end of those behind the point, where the first
digit has the given weight. The digits before the point all stay. -/
def trimFraction (weight : Int) (ds : List Nat) : List Nat :=
  let whole := (weight + 1).toNat
  ds.take whole ++ dropTrailingZeros (ds.drop whole)

/-- The wire value of a decimal under the given settings. Zero loses its sign and
exponent; it is accepted always. -/
def ofDecimal (settings : Settings) (x : Decimal) : Except Fault Numeric :=
  if x.IsZero then .ok zero
  else if ¬ (minWeight ≤ x.leadingWeight ∧ x.leadingWeight ≤ maxWeight) then
    .error (.outOfRange (.weight x.leadingWeight))
  else if settings.maxScale < x.scale then
    .error (.outOfRange (.scale x.scale settings.maxScale))
  else
    -- Only here is a power of ten formed; both of its exponents are bounded by now.
    let digits := Base10000.digits x.aligned
    let weight : Int := digits.length - x.fractionDigits - 1
    ofParts x.sign weight x.scale ((trimFraction weight digits).map Int.ofNat)

/-- The wire value of a quantity under the given settings. -/
def ofQuantity (settings : Settings) : Quantity → Except Fault Numeric
  | .finite x => ofDecimal settings x
  | .infinity sign => .error (.unsupported (.infinity sign))
  | .nan _ => if settings.encodeNan then .ok nan else .error (.unsupported .nanDisabled)

end Numeric

end NumericWire
