import NumericWire.Decimal.Literal
import NumericWire.Json
import NumericWire.Text.Hex
/-!
# NumericWire.Json.Reader

**Reading JSON texts.** The grammar is the standard one, with three additions for
floating-point numbers: `NaN`, `Infinity` and `-Infinity`. Two limits (`Limits`) keep
hostile texts out. A text that is no JSON in this sense is refused as a whole, so readers
are options.

Reading runs on *fuel*: a call on a value, on the items of a list or on the fields of an
object spends one unit. A list spends one unit for itself and one for each item before the
last, which is less than the characters of its brackets and commas, so as many units as
there are characters suffice.
-/

namespace NumericWire

namespace Json

/-- What a text may not exceed. -/
structure Limits where
  /-- How many lists and objects may stand inside each other. An empty one does not count. -/
  depth : Nat
  /-- How many digits a number may have before its point. -/
  whole : Nat
  deriving DecidableEq, Repr

/-- The limits for texts of unknown origin. -/
def Limits.strict : Limits := ⟨200, 4300⟩

/-- The four characters that may stand between tokens. -/
def isSpace (c : Char) : Bool := c = ' ' || c = '\t' || c = '\n' || c = '\r'

/-- The text without the space at its front. -/
def skipSpace (cs : List Char) : List Char := cs.dropWhile isSpace

/-! ### Strings -/

/-- The 16-bit unit that four hexadecimal digits spell. -/
def unit? (a b c d : Char) : Option Nat :=
  match Text.Hex.digitValue? a, Text.Hex.digitValue? b, Text.Hex.digitValue? c,
    Text.Hex.digitValue? d with
  | some a, some b, some c, some d => some (((a * 16 + b) * 16 + c) * 16 + d)
  | _, _, _, _ => none

/-- The first unit of a pair. -/
def isHighSurrogate (n : Nat) : Bool := 0xD800 ≤ n && n ≤ 0xDBFF

/-- The second unit of a pair. -/
def isLowSurrogate (n : Nat) : Bool := 0xDC00 ≤ n && n ≤ 0xDFFF

/-- The character that a pair of units stands for. -/
def ofSurrogates (high low : Nat) : Char :=
  Char.ofNat (0x10000 + (high - 0xD800) * 0x400 + (low - 0xDC00))

/-- The character that a short escape stands for. -/
def shortEscape? (c : Char) : Option Char :=
  match c with
  | '"' => some '"'
  | '\\' => some '\\'
  | '/' => some '/'
  | 'b' => some '\x08'
  | 'f' => some '\x0c'
  | 'n' => some '\n'
  | 'r' => some '\r'
  | 't' => some '\t'
  | _ => none

/-- Reads the rest of a string, up to its closing quote. `done` are the characters so far,
last first, and `high?` is the first unit of a pair whose second unit must come next. -/
def readString (done : List Char) (high? : Option Nat) :
    List Char → Option (String × List Char)
  | [] => none
  | c :: rest =>
    if c = '\\' then
      match rest with
      | 'u' :: a :: b :: c :: d :: rest =>
        -- The units of a pair stand next to each other; neither stands alone.
        match unit? a b c d, high? with
        | none, _ => none
        | some n, some high =>
          if isLowSurrogate n then readString (ofSurrogates high n :: done) none rest else none
        | some n, none =>
          if isHighSurrogate n then readString done (some n) rest
          else if isLowSurrogate n then none
          else readString (Char.ofNat n :: done) none rest
      | e :: rest =>
        match shortEscape? e, high? with
        | some c, none => readString (c :: done) none rest
        | _, _ => none
      | [] => none
    else if high?.isSome then none
    else if c = '"' then some (String.ofList done.reverse, rest)
    else if c.toNat < 0x20 then none
    else readString (c :: done) none rest

/-! ### Numbers -/

/-- Reads the exponent of a number, if there is one. -/
def readExponent (cs : List Char) : Option (Option Int × List Char) :=
  match cs with
  | [] => some (none, [])
  | mark :: rest =>
    if mark = 'e' ∨ mark = 'E' then
      let (sign, rest) := Decimal.Literal.takeSign rest
      let (ds, rest) := Decimal.Literal.takeDigits rest
      if ds = [] then none else some (some (sign.apply (Numeral.toNat ds)), rest)
    else some (none, cs)

/-- Reads the digits behind the point of a number, if there is a point. -/
def readFraction (cs : List Char) : Option (Option (List Char) × List Char) :=
  match cs with
  | '.' :: rest =>
    let (ds, rest) := Decimal.Literal.takeDigits rest
    if ds = [] then none else some (some ds, rest)
  | cs => some (none, cs)

/-- Takes a minus sign off the front; without one the sign is positive. -/
def takeMinus : List Char → Sign × List Char
  | '-' :: rest => (.negative, rest)
  | cs => (.positive, cs)

/-- Why the whole part of a number cannot be taken. -/
inductive WholeFault
  /-- There is none, or it has a zero in front of other digits. -/
  | malformed
  | tooLong
  deriving DecidableEq, Repr

/-- Takes the digits of a number before its point off the front, behind its sign. What
follows too many digits is not looked at. -/
def takeWhole (limit : Nat) (cs : List Char) : Except WholeFault (List Char × List Char) :=
  let (whole, rest) := Decimal.Literal.takeDigits cs
  if whole = [] ∨ (whole.head? = some '0' ∧ 1 < whole.length) then .error .malformed
  else if limit < whole.length then .error .tooLong
  else .ok (whole, rest)

/-- Reads a number behind its sign: an integer if it has neither point nor exponent. -/
def readMagnitude (limit : Nat) (sign : Sign) (cs : List Char) : Option (Json × List Char) :=
  match takeWhole limit cs with
  | .error _ => none
  | .ok (whole, rest) =>
    match readFraction rest with
    | none => none
    | some (fraction?, rest) =>
      match readExponent rest with
      | none => none
      | some (exponent?, rest) =>
        if fraction? = none ∧ exponent? = none then
          some (int (sign.apply (Numeral.toNat whole)), rest)
        else
          let fraction := fraction?.getD []
          some (float (Binary64.ofDecimal sign (Numeral.toNat (whole ++ fraction))
            (exponent?.getD 0 - fraction.length)), rest)

/-- Reads a number, by name or in digits. -/
def readNumber (limit : Nat) : List Char → Option (Json × List Char)
  | 'N' :: 'a' :: 'N' :: rest => some (float .nan, rest)
  | 'I' :: 'n' :: 'f' :: 'i' :: 'n' :: 'i' :: 't' :: 'y' :: rest =>
    some (float (.infinity .positive), rest)
  | '-' :: 'I' :: 'n' :: 'f' :: 'i' :: 'n' :: 'i' :: 't' :: 'y' :: rest =>
    some (float (.infinity .negative), rest)
  | cs => readMagnitude limit (takeMinus cs).1 (takeMinus cs).2

/-! ### Values -/

mutual

/-- Reads one value, with `depth` levels left for lists and objects. -/
def readValue (limit fuel depth : Nat) (cs : List Char) : Option (Json × List Char) :=
  match fuel with
  | 0 => none
  | fuel + 1 =>
    match cs with
    | 'n' :: 'u' :: 'l' :: 'l' :: rest => some (null, rest)
    | 't' :: 'r' :: 'u' :: 'e' :: rest => some (bool true, rest)
    | 'f' :: 'a' :: 'l' :: 's' :: 'e' :: rest => some (bool false, rest)
    | '"' :: rest => (readString [] none rest).map fun (s, rest) => (string s, rest)
    | '[' :: rest =>
      match skipSpace rest, depth with
      | ']' :: rest, _ => some (list [], rest)
      | _, 0 => none
      | rest, depth + 1 => readItems limit fuel depth [] rest
    | '\x7b' :: rest =>
      match skipSpace rest, depth with
      | '\x7d' :: rest, _ => some (object [], rest)
      | _, 0 => none
      | rest, depth + 1 => readFields limit fuel depth [] rest
    | cs => readNumber limit cs

/-- Reads the items of a list from an item on; `done` are those before it, last first. -/
def readItems (limit fuel depth : Nat) (done : List Json) (cs : List Char) :
    Option (Json × List Char) :=
  match fuel with
  | 0 => none
  | fuel + 1 =>
    match readValue limit fuel depth cs with
    | none => none
    | some (v, rest) =>
      match skipSpace rest with
      | ',' :: rest => readItems limit fuel depth (v :: done) (skipSpace rest)
      | ']' :: rest => some (list (v :: done).reverse, rest)
      | _ => none

/-- Reads the fields of an object from a name on; `done` are those before it, last
first. -/
def readFields (limit fuel depth : Nat) (done : List (String × Json)) (cs : List Char) :
    Option (Json × List Char) :=
  match fuel with
  | 0 => none
  | fuel + 1 =>
    match cs with
    | '"' :: rest =>
      match readString [] none rest with
      | none => none
      | some (name, rest) =>
        match skipSpace rest with
        | ':' :: rest =>
          match readValue limit fuel depth (skipSpace rest) with
          | none => none
          | some (v, rest) =>
            match skipSpace rest with
            | ',' :: rest => readFields limit fuel depth ((name, v) :: done) (skipSpace rest)
            | '\x7d' :: rest => some (object ((name, v) :: done).reverse, rest)
            | _ => none
        | _ => none
    | _ => none

end

/-- The value of a whole text. -/
def ofText? (limits : Limits) (s : String) : Option Json :=
  let cs := skipSpace s.toList
  match readValue limits.whole (cs.length + 1) limits.depth cs with
  | some (v, rest) => if skipSpace rest = [] then some v else none
  | none => none

end Json

end NumericWire
