import NumericWire.Decimal
import NumericWire.Text.Blank
import NumericWire.Text.DecimalDigit
/-!
# NumericWire.Decimal.Literal

**Decimal literals**: the texts that stand for a quantity. A literal is read in two steps.

* `plain?` brings it to ASCII: blanks at the ends go, underscores go wherever they stand,
  and a decimal digit of any script becomes the ASCII digit of the same value. Any other
  character outside ASCII makes the text no literal.
* `quantity?` reads what is left: a sign, and then digits with a point and an exponent, or
  one of the names of infinity and not-a-number in any case of letters.

Reading is exact. The one limit is on the exponent (`InReach`).
-/

namespace NumericWire

namespace Decimal.Literal

/-- The ASCII form of one character, if it has one. -/
def plainChar? (c : Char) : Option Char :=
  if c.toNat < 0x80 then some c else Text.asciiDigit? c

/-- The text in ASCII, without blanks at its ends and without underscores. -/
def plain? (cs : List Char) : Option (List Char) :=
  ((Text.trim Text.isBlank cs).filter (· != '_')).mapM plainChar?

/-- Takes a sign off the front; without one the sign is positive. -/
def takeSign : List Char → Sign × List Char
  | '-' :: rest => (.negative, rest)
  | '+' :: rest => (.positive, rest)
  | cs => (.positive, cs)

/-- Takes the digits at the front, as many as there are. -/
def takeDigits (cs : List Char) : List Char × List Char :=
  (cs.takeWhile Char.isDigit, cs.dropWhile Char.isDigit)

/-- Digits are taken up to the first character that is none. -/
theorem takeDigits_append {ds rest : List Char} (hds : ∀ c ∈ ds, c.isDigit = true)
    (hrest : ∀ c ∈ rest.head?, c.isDigit = false) : takeDigits (ds ++ rest) = (ds, rest) := by
  have htake : rest.takeWhile Char.isDigit = [] ∧ rest.dropWhile Char.isDigit = rest := by
    cases rest with
    | nil => exact ⟨rfl, rfl⟩
    | cons c rest => simp [hrest c rfl]
  rw [takeDigits, List.takeWhile_append_of_pos hds, List.dropWhile_append_of_pos hds, htake.1,
    htake.2, List.append_nil]

/-- Reads a whole text as an exponent: nothing, or a mark, a sign and at least one
digit. -/
def exponent? : List Char → Option Int
  | [] => some 0
  | mark :: rest =>
    let (sign, ds) := takeSign rest
    if (mark = 'e' ∨ mark = 'E') ∧ ds ≠ [] ∧ ds.all Char.isDigit then
      some (sign.apply (Numeral.toNat ds))
    else none

/-- Takes the digits behind a point, if there is a point. -/
def takeFraction : List Char → List Char × List Char
  | '.' :: rest => takeDigits rest
  | cs => ([], cs)

/-- The largest power of ten a leading digit may have. -/
def maxAdjusted : Int := 999999999999999999

/-- The smallest exponent a decimal may have. -/
def minExponent : Int := -1999999999999999997

/-- Whether a decimal is small enough and its last digit close enough to the point. -/
def InReach (x : Decimal) : Prop := x.adjusted ≤ maxAdjusted ∧ minExponent ≤ x.exponent

instance (x : Decimal) : Decidable (InReach x) := inferInstanceAs (Decidable (_ ∧ _))

/-- Reads an unsigned number: digits, of which a point may stand in front, behind or in
between, and an exponent. Digits behind the point lower the exponent. -/
def number? (sign : Sign) (cs : List Char) : Option Decimal :=
  let (whole, rest) := takeDigits cs
  let (fraction, rest) := takeFraction rest
  if whole ++ fraction = [] then none
  else
    match exponent? rest with
    | none => none
    | some e =>
      -- Zeros at the front are no digits of the coefficient, so they do not count for reach.
      let x : Decimal := ⟨sign, Numeral.toNat (whole ++ fraction), e - fraction.length⟩
      if InReach x then some x else none

/-- Reads a name in lower case: infinity, or not-a-number with digits behind it. -/
def named? (sign : Sign) : List Char → Option Quantity
  | 'i' :: 'n' :: 'f' :: rest =>
    if rest = [] ∨ rest = ['i', 'n', 'i', 't', 'y'] then some (.infinity sign) else none
  | 'n' :: 'a' :: 'n' :: rest => if rest.all Char.isDigit then some (.nan false) else none
  | 's' :: 'n' :: 'a' :: 'n' :: rest => if rest.all Char.isDigit then some (.nan true) else none
  | _ => none

/-- Reads an ASCII text. No name starts with a digit or a point, so the two readings
exclude each other. -/
def quantity? (cs : List Char) : Option Quantity :=
  let (sign, rest) := takeSign cs
  match named? sign (rest.map Char.toLower) with
  | some q => some q
  | none => (number? sign rest).map .finite

end Decimal.Literal

/-- The quantity that a literal stands for; `none` for a text that is no literal. -/
def Quantity.ofLiteral? (s : String) : Option Quantity :=
  (Decimal.Literal.plain? s.toList).bind Decimal.Literal.quantity?

end NumericWire
