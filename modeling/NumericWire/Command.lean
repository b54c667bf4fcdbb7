import NumericWire.Decimal.Literal
import NumericWire.Decimal.Notation
import NumericWire.Document
import NumericWire.Frame
import NumericWire.Text.Hex
/-!
# NumericWire.Command

**Commands** turn text into text: a decimal literal into the JSON or the binary form of
its wire value, and either form back into the text of a decimal.
-/

namespace NumericWire

/-- A command with its arguments read. -/
inductive Command
  | encode (value : Quantity)
  | decode (wire : String)
  | pack (value : Quantity)
  | unpack (hex : List String)
  deriving DecidableEq, Repr

namespace Command

/-- The commands, without their arguments. -/
inductive Name
  | encode
  | decode
  | pack
  | unpack
  deriving DecidableEq, Repr

namespace Name

/-- All commands, in the order in which they are listed to the reader. -/
def all : List Name := [encode, decode, pack, unpack]

/-- The word for a command. -/
def text : Name → String
  | encode => "encode"
  | decode => "decode"
  | pack => "pack"
  | unpack => "unpack"

/-- The command that a word stands for. -/
def ofText? (s : String) : Option Name := all.find? fun name => name.text = s

/-- Each command has a word of its own. -/
@[simp] theorem ofText?_text (name : Name) : ofText? name.text = some name := by
  cases name <;> decide

end Name

/-- The quantity of a literal, or the fault that the text is none. -/
def readLiteral (s : String) : Except Fault Quantity :=
  match Quantity.ofLiteral? s with
  | some q => .ok q
  | none => .error (.notLiteral s)

/-- The bytes of hexadecimal texts that follow each other; a byte may be cut in two. -/
def readHex (texts : List String) : Except Fault (List UInt8) :=
  match Text.Hex.decode (String.join texts) with
  | .ok bytes => .ok bytes
  | .error position => .error (.notHex position)

/-- The text that a command answers under the given settings. -/
def run (settings : Settings) : Command → Except Fault String
  | encode value => do return (← (← Numeric.ofQuantity settings value).toJson).toText
  | decode wire => do return (← (← Numeric.ofJsonText wire).toDecimal).toText
  | pack value => do return Text.Hex.encode (← Frame.ofQuantity settings value)
  | unpack texts => do return (← Frame.toDecimal (← readHex texts)).toText

end Command

end NumericWire
