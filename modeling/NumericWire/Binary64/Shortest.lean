import NumericWire.Binary64
/-!
# NumericWire.Binary64.Shortest

**The shortest decimal that reads back.** Around each finite number lies an interval of
reals that round to it. Of the decimals in that interval, `shortest` takes one with the
fewest digits, and of those the nearest; `toText` writes it with a point or an exponent, so
that it does not look like an integer.
-/

namespace NumericWire

-- Powers are those of the core library, whatever else is imported.
attribute [local instance (2000)] instPowNat

namespace Binary64

/-- The interval of reals that round to a number, in units of a quarter of its last place:
`4m - below` to `4m + 2`, with the ends included when the significand is even. Just above
a power of two the neighbour below is only half as far. -/
structure Interval where
  low : Nat
  value : Nat
  high : Nat
  closed : Bool

/-- The interval around `m · 2 ^ e`, in units of `2 ^ (e - 2)`. -/
def interval (m : Nat) (e : Int) : Interval :=
  let below := if m = 2 ^ (significandBits - 1) ∧ minExponent < e then 1 else 2
  ⟨4 * m - below, 4 * m, 4 * m + 2, m % 2 = 0⟩

/-- Whether `c / den` lies in the interval, whose bounds are multiples of `num / den`. -/
def Interval.contains (i : Interval) (num den c : Nat) : Bool :=
  if i.closed then i.low * num ≤ c * den && c * den ≤ i.high * num
  else i.low * num < c * den && c * den < i.high * num

/-- Of the two multiples of `10 ^ k` next to the value, the nearest that reads back; of
two equally near the even one. The unit of the interval is `num / den` in terms of
`10 ^ k`. -/
def onGrid? (i : Interval) (num den : Nat) : Option Nat :=
  let down := i.value * num / den
  let up := down + 1
  let fraction := 2 * (i.value * num % den)
  let downFirst := fraction < den || (fraction == den && down % 2 == 0)
  let (first, second) := if downFirst then (down, up) else (up, down)
  if i.contains num den first then some first
  else if i.contains num den second then some second
  else none

/-- The unit `2 ^ (e - 2)` of an interval in terms of `10 ^ k`, as a quotient. -/
def unit (e k : Int) : Nat × Nat :=
  (2 ^ (e - 2).toNat * 10 ^ (-k).toNat, 2 ^ (2 - e).toNat * 10 ^ k.toNat)

/-- The first hit on the grids of `10 ^ k`, `10 ^ (k - 1)` and so on, so many of them. -/
def search (i : Interval) (e k : Int) : Nat → Nat × Int
  | 0 => (0, 0)
  | tries + 1 =>
    match onGrid? i (unit e k).1 (unit e k).2 with
    | some c => (c, k)
    | none => search i e (k - 1) tries

/-- Every finite number lies below this power of ten. -/
def maxPower : Int := 309

/-- Enough grids to come from the largest power of ten down to the smallest numbers. -/
def gridCount : Nat := 640

/-- Coefficient and exponent of the shortest decimal that reads back as the nonzero number
`m · 2 ^ e`. A larger power of ten means fewer digits, so the first hit is the shortest. -/
def shortest (m : Nat) (e : Int) : Nat × Int :=
  search (interval m e) e maxPower gridCount

/-- Whether a number is written without an exponent, by the place of its point counted
from the front of the digits. -/
def isPositional (point : Int) : Bool := -4 < point && point ≤ 16

/-- An exponent of at least two digits, with its sign. -/
def exponentText (e : Int) : String :=
  let ds := Numeral.ofNat e.natAbs
  "e" ++ (if e < 0 then "-" else "+") ++
    String.ofList (List.replicate (2 - ds.length) '0' ++ ds)

/-- Digits with the point behind so many of them: a point always stands between digits,
and zeros fill what is missing on either side. -/
def positionalText (ds : List Char) (point : Int) : List Char :=
  if point ≤ 0 then '0' :: '.' :: (List.replicate (-point).toNat '0' ++ ds)
  else
    let whole := point.toNat
    ds.take whole ++ List.replicate (whole - ds.length) '0' ++
      '.' :: (if ds.length ≤ whole then ['0'] else ds.drop whole)

/-- The text of digits whose point stands behind so many of them. -/
def digitsText (ds : List Char) (point : Int) : String :=
  if isPositional point then String.ofList (positionalText ds point)
  else
    String.ofList (ds.take 1 ++ (if ds.length ≤ 1 then [] else '.' :: ds.drop 1)) ++
      exponentText (point - 1)

/-- The text of a number. -/
def toText : Binary64 → String
  | finite sign m e =>
    if m = 0 then sign.mark ++ "0.0"
    else
      let ds := Numeral.ofNat (shortest m e).1
      sign.mark ++ digitsText ds (ds.length + (shortest m e).2)
  | infinity sign => sign.mark ++ "inf"
  | nan => "nan"

end Binary64

end NumericWire
