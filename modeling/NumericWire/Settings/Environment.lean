import NumericWire.Decimal.Literal
import NumericWire.Document.Integer
import NumericWire.Settings
/-!
# NumericWire.Settings.Environment

**Settings from environment variables.** `PGNUMERIC_ENCODE_NAN` accepts not-a-number if it
is one of three words in any case of letters; `PGNUMERIC_MAX_SCALE` is the largest scale.
A variable that is not set stands for the default.

The integer may have blanks around it, a sign, digits of any script and single underscores
between digits.
-/

namespace NumericWire

/-- The values of the variables that settings are read from; `none` for one not set. -/
structure Environment where
  encodeNan : Option String
  maxScale : Option String
  deriving DecidableEq, Repr

namespace Environment

/-- The variable that tells whether not-a-number is accepted. -/
def encodeNanName : String := "PGNUMERIC_ENCODE_NAN"

/-- The variable that tells the largest scale. -/
def maxScaleName : String := "PGNUMERIC_MAX_SCALE"

/-- The environment in which the variables are looked up by name. -/
def ofLookup (lookup : String → Option String) : Environment :=
  ⟨lookup encodeNanName, lookup maxScaleName⟩

end Environment

namespace Settings

/-- The longest integer that is read. -/
def maxIntegerDigits : Nat := 4300

/-- The words that switch a setting on. -/
def trueWords : List String := ["true", "1", "yes"]

/-- Whether a text switches a setting on. Blanks around a word are not left aside. The case
of ASCII letters is enough: no other character has a letter of these words in lower case. -/
def isTrue (s : String) : Bool :=
  trueWords.contains (String.ofList (s.toList.map Char.toLower))

/-- A blank outside ASCII becomes a space and a digit of any script an ASCII digit; other
characters stay. -/
def plainChar (c : Char) : Char :=
  if c.toNat < 0x80 then c
  else if Text.isBlank c then ' '
  else (Text.asciiDigit? c).getD c

/-- Whether a character belongs to the digits of an integer. -/
def isNumeralChar (c : Char) : Bool := c.isDigit || c == '_'

/-- The integer that a text spells. -/
def integerOfText (s : String) : Except Fault Int :=
  let cs := Text.trim Text.isAsciiBlank (s.toList.map plainChar)
  let (sign, body) := Decimal.Literal.takeSign cs
  let numeral := body.takeWhile isNumeralChar
  let ds := numeral.filter Char.isDigit
  -- Length is judged before what stands behind the digits.
  if ¬ Document.isSpaced numeral then .error (.notInteger s)
  else if maxIntegerDigits < ds.length then .error (.longInteger ds.length)
  else if body.dropWhile isNumeralChar ≠ [] then .error (.notInteger s)
  else .ok (sign.apply (Numeral.toNat ds))

/-- The settings of an environment. -/
def ofEnvironment (environment : Environment) : Except Fault Settings :=
  let encodeNan := (environment.encodeNan.map isTrue).getD true
  match environment.maxScale with
  | none => ofParts encodeNan Numeric.maxScale
  | some s =>
    match integerOfText s with
    | .ok n => ofParts encodeNan n
    | .error fault => .error fault

end Settings

end NumericWire
