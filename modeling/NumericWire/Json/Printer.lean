import NumericWire.Binary64.Shortest
import NumericWire.Json
import NumericWire.Text.Quoted
/-!
# NumericWire.Json.Printer

Two texts of a JSON value.

* `Json.toText` — **JSON**, in ASCII: a space follows each comma and colon, and a
  character outside ASCII is written as one or two escaped 16-bit units.
* `Json.shown` — how messages **show** a value to the reader: a string stands for itself,
  and inside a list or an object it is quoted.
-/

namespace NumericWire

namespace Json

/-- An escaped 16-bit unit. -/
def escapedUnit (n : Nat) : List Char := '\\' :: 'u' :: Text.hexFixed n 4

/-- One character of a JSON string. A character beyond the 16-bit units takes two of
them, a high and a low surrogate. -/
def stringChar (c : Char) : List Char :=
  if c = '"' then ['\\', '"']
  else if c = '\\' then ['\\', '\\']
  else if c = '\n' then ['\\', 'n']
  else if c = '\r' then ['\\', 'r']
  else if c = '\t' then ['\\', 't']
  else if c = '\x08' then ['\\', 'b']
  else if c = '\x0c' then ['\\', 'f']
  else if 0x20 ≤ c.toNat ∧ c.toNat < 0x7F then [c]
  else if c.toNat < 0x10000 then escapedUnit c.toNat
  else
    escapedUnit (0xD800 + (c.toNat - 0x10000) / 0x400) ++
      escapedUnit (0xDC00 + (c.toNat - 0x10000) % 0x400)

/-- A JSON string. -/
def stringText (s : String) : String :=
  String.ofList ('"' :: (s.toList.flatMap stringChar ++ ['"']))

/-- A floating-point number in JSON; the values that JSON has no numbers for are named. -/
def floatText : Binary64 → String
  | .nan => "NaN"
  | .infinity sign => sign.mark ++ "Infinity"
  | x => x.toText

mutual

/-- The JSON text of a value. -/
def toText : Json → String
  | null => "null"
  | bool b => if b then "true" else "false"
  | int n => toString n
  | float x => floatText x
  | string s => stringText s
  | list items => "[" ++ ", ".intercalate (itemTexts items) ++ "]"
  | object fields => "\x7b" ++ ", ".intercalate (fieldTexts fields) ++ "\x7d"

/-- The JSON texts of items. -/
def itemTexts : List Json → List String
  | [] => []
  | v :: rest => v.toText :: itemTexts rest

/-- The JSON texts of fields. -/
def fieldTexts : List (String × Json) → List String
  | [] => []
  | (n, v) :: rest => (stringText n ++ ": " ++ v.toText) :: fieldTexts rest

end

mutual

/-- A value as it is shown inside another one. -/
def shownInside : Json → String
  | null => "None"
  | bool b => if b then "True" else "False"
  | int n => toString n
  | float x => x.toText
  | string s => Text.quoted s
  | list items => "[" ++ ", ".intercalate (shownItems items) ++ "]"
  | object fields => "\x7b" ++ ", ".intercalate (shownFields fields) ++ "\x7d"

/-- Items as they are shown inside a list. -/
def shownItems : List Json → List String
  | [] => []
  | v :: rest => v.shownInside :: shownItems rest

/-- Fields as they are shown inside an object. -/
def shownFields : List (String × Json) → List String
  | [] => []
  | (n, v) :: rest => (Text.quoted n ++ ": " ++ v.shownInside) :: shownFields rest

end

/-- A value as it is shown in a message; names that stand twice in an object are shown
once. -/
def shown (v : Json) : String :=
  match v.distinct with
  | string s => s
  | v => v.shownInside

end Json

end NumericWire
