import NumericWire.Text.Printable
/-!
# NumericWire.Text.Quoted

**Quoted text**, for messages that show a text to the reader. The quotes are single,
unless the text has single quotes and no double ones. Inside, the backslash and the quote
in use are escaped, line ends and tabs have short escapes, and a character that is not
printable is shown by its code point.
-/

namespace NumericWire.Text

/-- A hexadecimal digit, in lower case. -/
def hexDigit (n : Nat) : Char := Nat.digitChar (n % 16)

/-- The last `width` hexadecimal digits of a number. -/
def hexFixed (n : Nat) : Nat → List Char
  | 0 => []
  | width + 1 => hexFixed (n / 16) width ++ [hexDigit n]

/-- The code point of a character behind a backslash, in the shortest of three widths. -/
def codePointEscape (c : Char) : List Char :=
  if c.toNat < 0x100 then '\\' :: 'x' :: hexFixed c.toNat 2
  else if c.toNat < 0x10000 then '\\' :: 'u' :: hexFixed c.toNat 4
  else '\\' :: 'U' :: hexFixed c.toNat 8

/-- How one character is shown between the given quotes. -/
def quotedChar (quote c : Char) : List Char :=
  if c = '\\' ∨ c = quote then ['\\', c]
  else if c = '\n' then ['\\', 'n']
  else if c = '\r' then ['\\', 'r']
  else if c = '\t' then ['\\', 't']
  else if isPrintable c then [c]
  else codePointEscape c

/-- The quote that a text is put between. -/
def quoteFor (cs : List Char) : Char :=
  if '\'' ∈ cs ∧ '"' ∉ cs then '"' else '\''

/-- The text between quotes. -/
def quoted (s : String) : String :=
  let cs := s.toList
  let quote := quoteFor cs
  String.ofList (quote :: (cs.flatMap (quotedChar quote) ++ [quote]))

/-- The first so many characters of a text, for messages that show no more. -/
def clip (n : Nat) (s : String) : String := String.ofList (s.toList.take n)

end NumericWire.Text
