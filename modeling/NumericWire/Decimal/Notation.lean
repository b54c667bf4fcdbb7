import NumericWire.Decimal
/-!
# NumericWire.Decimal.Notation

**The text of a decimal.** Every digit of the coefficient is written, trailing zeros
included, so the text tells `1.10` from `1.1`. A decimal with a positive exponent, or one
that would need more than six zeros between the point and its first digit, is written in
scientific notation with one digit before the point; any other is written plainly.
The exponent of scientific notation is never 0.
-/

namespace NumericWire

namespace Decimal

/-- The smallest power of ten of a leading digit that is still written plainly. -/
def minPlainAdjusted : Int := -6

/-- Whether a decimal is written without an exponent. -/
def IsPlain (x : Decimal) : Prop := x.exponent ≤ 0 ∧ minPlainAdjusted ≤ x.adjusted

instance (x : Decimal) : Decidable x.IsPlain := inferInstanceAs (Decidable (_ ∧ _))

/-- The digits with a point before the last `places` of them, and a zero in front if
nothing stands before the point. No point is written for no places. -/
def plainDigits (ds : List Char) (places : Nat) : List Char :=
  if places = 0 then ds
  else if ds.length ≤ places then
    '0' :: '.' :: (List.replicate (places - ds.length) '0' ++ ds)
  else ds.take (ds.length - places) ++ '.' :: ds.drop (ds.length - places)

/-- The digits with a point behind the first one; a single digit stands alone. -/
def leadingPoint : List Char → List Char
  | [] => []
  | [d] => [d]
  | d :: rest => d :: '.' :: rest

/-- The exponent mark, always with a sign. -/
def exponentMark (e : Int) : List Char :=
  'E' :: (if e < 0 then '-' else '+') :: Numeral.ofNat e.natAbs

/-- The text of a magnitude. -/
def magnitudeText (x : Decimal) : List Char :=
  let ds := Numeral.ofNat x.coefficient
  if x.IsPlain then plainDigits ds x.scale
  else leadingPoint ds ++ exponentMark x.adjusted

/-- The text of a decimal. -/
def toText (x : Decimal) : String := x.sign.mark ++ String.ofList x.magnitudeText

end Decimal

end NumericWire
