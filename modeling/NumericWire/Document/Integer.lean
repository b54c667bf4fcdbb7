import NumericWire.Decimal.Literal
import NumericWire.Document.Issue
import NumericWire.Json.Reader
/-!
# NumericWire.Document.Integer

**What is taken for an integer in a document.** Besides an integer itself these are the
truth values, as 0 and 1; a floating-point number without a fraction, if it is not too
large; and a text that spells an integer.

A text spells an integer if it is one in JSON (`plainInteger`), or else if its plain form is
(`plainForm?`). In the plain form white space around a numeral is gone, and so are a plus
sign, zeros in front, zeros behind a point and single underscores. Among the zeros in front
underscores are free, and a minus sign may follow them.
-/

namespace NumericWire

namespace Document

/-- Two to the 63rd power. A floating-point number is taken for an integer strictly between
this bound and its opposite. -/
def floatBound : Int := 9223372036854775808

/-- The rest of a numeral behind zeros at its front; `last` is the zero or underscore just
before. A numeral of nothing else keeps its last character, and so does one before a
point. A minus sign ends the zeros as well. -/
def dropZeros (last : Char) : List Char → Option (List Char)
  | [] => some [last]
  | c :: rest =>
    if c = '0' ∨ c = '_' then dropZeros c rest
    else if c.isDigit ∨ c = '-' then some (c :: rest)
    else if c = '.' then some (last :: c :: rest)
    else none

/-- A numeral, which must start with a digit, without the zeros at its front. -/
def withoutLeadingZeros? : List Char → Option (List Char)
  | [] => none
  | c :: rest =>
    if c = '0' then dropZeros c rest else if c.isDigit then some (c :: rest) else none

/-- A numeral without a point that has zeros behind it, at least one, and nothing else. -/
def withoutZeroFraction (cs : List Char) : List Char :=
  match cs.dropWhile (· != '.') with
  | [] => cs
  | _ :: fraction =>
    if fraction ≠ [] ∧ fraction.all (· == '0') then cs.takeWhile (· != '.') else cs

/-- Whether underscores stand only singly and only between other characters. -/
def isSpaced : List Char → Bool
  | [] => false
  | [c] => c != '_'
  | c :: d :: rest => c != '_' && (if d = '_' then isSpaced rest else isSpaced (d :: rest))

/-- A numeral without its underscores, if these stand where they may. -/
def withoutUnderscores (cs : List Char) : List Char :=
  if isSpaced cs then cs.filter (· != '_') else cs

/-- The plain form of a numeral, which is meant to be an integer in JSON. -/
def plainForm? (cs : List Char) : Option (List Char) :=
  let (sign, body) := Decimal.Literal.takeSign (Text.trim Text.isWhiteSpace cs)
  (withoutLeadingZeros? body).map fun numeral =>
    sign.mark.toList ++ withoutUnderscores (withoutZeroFraction numeral)

/-- Reads a whole text as an integer in JSON. -/
def plainInteger (cs : List Char) : Except Problem Int :=
  let (sign, body) := Json.takeMinus cs
  match Json.takeWhole Json.Limits.strict.whole body with
  | .error .tooLong => .error .numeralTooLarge
  | .error .malformed => .error .notNumeral
  | .ok (ds, rest) =>
    if rest = [] then .ok (sign.apply (Numeral.toNat ds)) else .error .notNumeral

/-- The integer that a text spells. Only digits that are too many as they stand are called
too large; a plain form that is too long spells nothing. -/
def integerOfText (s : String) : Except Problem Int :=
  match plainInteger s.toList with
  | .error .notNumeral =>
    match (plainForm? s.toList).map plainInteger with
    | some (.ok n) => .ok n
    | _ => .error .notNumeral
  | outcome => outcome

/-- The integer that a floating-point number is. -/
def integerOfFloat (x : Binary64) : Except Problem Int :=
  match x with
  | .finite _ _ _ =>
    match x.toInt? with
    | none => .error .fractional
    | some n => if -floatBound < n ∧ n < floatBound then .ok n else .error .numeralTooLarge
  | _ => .error .notFinite

/-- The integer that a value is taken for. -/
def integerOf : Json → Except Problem Int
  | .int n => .ok n
  | .bool b => .ok (if b then 1 else 0)
  | .float x => integerOfFloat x
  | .string s => integerOfText s
  | _ => .error .notInteger

/-- The integer that a value is taken for, if it lies between two bounds. -/
def boundedInteger (least greatest : Int) (v : Json) : Except Problem Int :=
  match integerOf v with
  | .error problem => .error problem
  | .ok n =>
    if n < least then .error (.tooSmall least)
    else if greatest < n then .error (.tooLarge greatest)
    else .ok n

end Document

end NumericWire
