import NumericWire.Document.Issue
import NumericWire.Kind
import NumericWire.Sign
import NumericWire.Text.Quoted
/-!
# NumericWire.Fault

**Why an operation fails.** A fault is named by its cause; the causes come in classes, one
for each stage that can refuse a value, and `Fault.message` words them all.
-/

namespace NumericWire

/-- A value without a counterpart on the other side. -/
inductive Unsupported
  /-- Not-a-number, where the settings do not let it through. -/
  | nanDisabled
  /-- An infinity has no wire value. -/
  | infinity (sign : Sign)
  /-- The wire value not-a-number has no decimal. -/
  | nanValue
  deriving DecidableEq, Repr

/-- A limit of the wire header that a number exceeds. -/
inductive Excess
  | weight (weight : Int)
  | scale (scale limit : Nat)
  /-- More digits than the digit count of a frame can say. -/
  | digitCount (count limit : Nat)
  deriving DecidableEq, Repr

/-- What keeps parts from forming a wire value. -/
inductive Flaw
  | weight (weight : Int)
  | scale (scale : Int)
  /-- The digit at a position is no integer. -/
  | digitKind (position : Nat) (kind : Kind)
  /-- The digit at a position is an integer out of range. -/
  | digitRange (position : Nat) (digit : Int)
  deriving DecidableEq, Repr

/-- What keeps bytes from being a frame. -/
inductive Damage
  /-- Fewer bytes than the header has. -/
  | header (needed got : Nat)
  | negativeCount (count : Int)
  /-- Another number of bytes than the digit count announces. -/
  | size (count needed got : Nat)
  | signTag (tag : Nat)
  deriving DecidableEq, Repr

/-- What an operation on values of any kind says that it wants. -/
inductive Wanted
  | decimalToEncode
  | wireValueToDecode
  | wireValueToPack
  | wireValue
  | document
  | bytes
  /-- Something that has a size. -/
  | sized
  deriving DecidableEq, Repr

/-- Why an operation fails. -/
inductive Fault
  | unsupported (cause : Unsupported)
  | outOfRange (excess : Excess)
  | invalidWireValue (flaw : Flaw)
  | malformedFrame (damage : Damage)
  /-- A null, where a frame is wanted. -/
  | unexpectedNull
  /-- A JSON document with issues; there is at least one. -/
  | invalidDocument (issues : List Document.Issue)
  /-- A negative integer has no base-10000 digits. -/
  | negativeDigits (value : Int)
  /-- A largest scale that does not fit the wire header. -/
  | maxScale (value : Int)
  /-- A setting that does not spell an integer. -/
  | notInteger (text : String)
  /-- A setting that spells an integer of too many digits. -/
  | longInteger (digits : Nat)
  /-- A text that is no hexadecimal, with the position of the misfit. -/
  | notHex (position : Nat)
  | unknownCommand (name : String)
  /-- A text that is no decimal literal. -/
  | notLiteral (text : String)
  /-- A value of the wrong kind. -/
  | wrongKind (wanted : Wanted) (kind : Kind)
  deriving DecidableEq, Repr

/-- Which value has no counterpart. -/
def Unsupported.message : Unsupported → String
  | nanDisabled => "NaN encoding is disabled by configuration"
  | infinity sign => s!"Cannot encode {sign.mark}Infinity as NUMERIC"
  | nanValue => "NaN is not supported when decoding to Decimal"

/-- Which limit is exceeded, and by what. -/
def Excess.message : Excess → String
  | weight w => s!"Weight {w} does not fit in int16"
  | scale s limit => s!"Scale {s} exceeds maximum {limit}"
  | digitCount n limit => s!"{n} digits exceed the NUMERIC limit of {limit}"

/-- Which part is at fault, and its value. -/
def Flaw.message : Flaw → String
  | weight w => s!"Weight out of int16 range: {w}"
  | scale s => s!"Scale out of uint16 range: {s}"
  | digitKind p kind => s!"Digit {p} must be int, got {kind.name}"
  | digitRange p d => s!"Digit {p} out of range [0, 9999]: {d}"

/-- What does not fit, in bytes or in the header. -/
def Damage.message : Damage → String
  | header needed got => s!"NUMERIC header needs {needed} bytes, got {got}"
  | negativeCount n => s!"Negative digit count: {n}"
  | size n needed got => s!"NUMERIC with {n} digits needs {needed} bytes, got {got}"
  | signTag tag => "Unknown NUMERIC sign tag: 0x" ++ String.ofList (Text.hexFixed tag 4)

/-- What was wanted, and the kind that came instead. -/
def Wanted.message (kind : Kind) : Wanted → String
  | decimalToEncode => s!"encode requires Decimal or int, got {kind.name}"
  | wireValueToDecode => s!"decode requires a wire value, got {kind.name}"
  | wireValueToPack => s!"pack requires a wire value, got {kind.name}"
  | wireValue => s!"Expected a wire value, got {kind.name}"
  | document => s!"Expected a wire model, got {kind.name}"
  | bytes => s!"a bytes-like object is required, not '{kind.name}'"
  | sized => s!"object of type '{kind.qualifiedName}' has no len()"

/-- What a reader is told about a fault. Of a document with issues it is only their
number. -/
def Fault.message : Fault → String
  | unsupported cause => cause.message
  | outOfRange excess => excess.message
  | invalidWireValue flaw => flaw.message
  | malformedFrame damage => damage.message
  | unexpectedNull => "Unexpected null for non-null NUMERIC column"
  | invalidDocument issues =>
    let count := issues.length
    let noun := if count = 1 then "error" else "errors"
    s!"{count} validation {noun} for " ++
      "tagged-union[PositiveModel,NegativeModel,NotANumberModel]"
  | negativeDigits v => s!"Cannot split a negative integer into base-10000 digits: {v}"
  | maxScale v => s!"max_scale must be in [0, 65535], got {v}"
  | notInteger text =>
    "invalid literal for int() with base 10: " ++ Text.clip 200 (Text.quoted text)
  | longInteger n =>
    s!"Exceeds the limit (4300 digits) for integer string conversion: value has {n} digits; " ++
      "use sys.set_int_max_str_digits() to increase the limit"
  | notHex p => s!"non-hexadecimal number found in fromhex() arg at position {p}"
  | unknownCommand name => "Unknown command: " ++ name
  | notLiteral text => "not a decimal literal: " ++ Text.quoted text
  | wrongKind wanted kind => wanted.message kind

end NumericWire
