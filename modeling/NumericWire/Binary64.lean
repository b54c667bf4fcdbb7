import NumericWire.Numeral
import NumericWire.Sign
/-!
# NumericWire.Binary64

**Floating-point numbers of 64 bits**, as exact values: a finite one is an integer times a
power of two. JSON numbers with a point or an exponent are numbers of this kind.

`Binary64.ofDecimal` is the number nearest to a decimal; halfway between two of them the
one with the even significand is taken. It is computed in exact integer arithmetic.
-/

namespace NumericWire

-- Powers are those of the core library, whatever else is imported.
attribute [local instance (2000)] instPowNat

/-- A finite number `± significand · 2 ^ exponent`, an infinity, or not-a-number. -/
inductive Binary64
  | finite (sign : Sign) (significand : Nat) (exponent : Int)
  | infinity (sign : Sign)
  | nan
  deriving DecidableEq, Repr

namespace Binary64

/-- Significands lie below this power of two. -/
def significandBits : Nat := 53

/-- The exponent of the smallest numbers. -/
def minExponent : Int := -1074

/-- The exponent of the largest numbers. -/
def maxExponent : Int := 971

/-- The quotient rounded to the nearest integer, a half to the even neighbour. -/
def roundQuotient (num den : Nat) : Nat :=
  let q := num / den
  let twice := 2 * (num % den)
  if den < twice ∨ (twice = den ∧ q % 2 = 1) then q + 1 else q

/-- Numerator and denominator of `num / den` divided by `2 ^ e`. -/
def scaleDown (num den : Nat) (e : Int) : Nat × Nat :=
  if 0 ≤ e then (num, den * 2 ^ e.toNat) else (num * 2 ^ (-e).toNat, den)

/-- The exponent at which the integer part of `num / den · 2 ^ (-e)` has at most 53 bits
and, if the exponent is not the smallest, exactly 53. The first guess is from the bit
lengths, which determine that of a quotient up to one. -/
def exponentFor (num den : Nat) : Int :=
  let guess := max ((num.log2 : Int) - den.log2 - significandBits) minExponent
  let (n, d) := scaleDown num den guess
  -- One bit too many means that the guess was too low by one.
  if n / d < 2 ^ significandBits then guess else guess + 1

/-- The number nearest to the quotient of two natural numbers, the second not zero. -/
def ofQuotient (sign : Sign) (num den : Nat) : Binary64 :=
  if num = 0 then finite sign 0 minExponent
  else
    let e := exponentFor num den
    let (n, d) := scaleDown num den e
    let m := roundQuotient n d
    -- Rounding up may have made the significand one bit longer.
    let (m, e) := if m = 2 ^ significandBits then (m / 2, e + 1) else (m, e)
    if maxExponent < e then infinity sign else finite sign m e

/-- Decimals whose leading digit stands for this power of ten or a larger one are nearest
to infinity, and those from its opposite down are nearest to zero. -/
def decimalReach : Int := 400

/-- The number nearest to `coefficient · 10 ^ exponent`. Powers of ten out of reach are
not formed. -/
def ofDecimal (sign : Sign) (coefficient : Nat) (exponent : Int) : Binary64 :=
  let leading := exponent + Numeral.length coefficient - 1
  if coefficient = 0 ∨ leading < -decimalReach then finite sign 0 minExponent
  else if decimalReach < leading then infinity sign
  else if 0 ≤ exponent then ofQuotient sign (coefficient * 10 ^ exponent.toNat) 1
  else ofQuotient sign coefficient (10 ^ (-exponent).toNat)

/-- The integer that a number is, if it is one. -/
def toInt? : Binary64 → Option Int
  | finite sign m e =>
    if 0 ≤ e then some (sign.apply (m * 2 ^ e.toNat))
    else if m % 2 ^ (-e).toNat = 0 then some (sign.apply (m / 2 ^ (-e).toNat))
    else none
  | _ => none

end Binary64

end NumericWire
