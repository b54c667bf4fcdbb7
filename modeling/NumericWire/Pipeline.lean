import NumericWire.Document
import NumericWire.Frame
/-!
# NumericWire.Pipeline

**Chains of conversions.** A pipeline sends a value through stages, each of which converts
what the one before it has made. Which kind of value comes to a stage is known only when it
runs, so a stage checks the kind first; a chain ends at its first fault.
-/

namespace NumericWire

namespace Pipeline

/-- What goes from stage to stage. -/
inductive Value
  | quantity (q : Quantity)
  | numeric (w : Numeric)
  | bytes (bs : List UInt8)
  | document (d : Document)
  | json (v : Json)

/-- A conversion. -/
inductive Stage
  /-- A decimal or an integer to a wire value. -/
  | encode
  /-- A wire value to a decimal. -/
  | decode
  /-- A wire value to a frame. -/
  | pack
  /-- A frame to a wire value. -/
  | unpack
  /-- A decimal or an integer to a frame. -/
  | encodeFrame
  /-- A frame, which may be missing, to a decimal. -/
  | decodeFrame
  /-- A wire value to a document. -/
  | toDocument
  /-- A document to a wire value. -/
  | ofDocument
  /-- A wire value to a JSON value. -/
  | toJson
  /-- A JSON value to a wire value. -/
  | ofJson
  deriving DecidableEq, Repr

namespace Value

/-- The kind of a value. -/
def kind : Value → Kind
  | quantity _ => .decimal
  | numeric w => w.kind
  | bytes _ => .bytes
  | document d => d.kind
  | json v => v.kind

/-- The quantity that a decimal or an integer is. -/
def toQuantity : Value → Except Fault Quantity
  | quantity q => .ok q
  | json (.int n) => .ok (.finite (.ofInt n))
  | v => .error (.wrongKind .decimalToEncode v.kind)

/-- The wire value that a value is, for a stage that wants one. -/
def toNumeric (wanted : Wanted) : Value → Except Fault Numeric
  | numeric w => .ok w
  | v => .error (.wrongKind wanted v.kind)

/-- The document that a value is. -/
def toDocument : Value → Except Fault Document
  | document d => .ok d
  | v => .error (.wrongKind .document v.kind)

/-- How many parts a value that is not bytes has, if it has parts. -/
def size? : Json → Option Nat
  | .string s => some s.length
  | .list items => some items.length
  | .object fields => some (Json.distinctFields fields).length
  | _ => none

/-- The bytes that a value is. Of anything else it is asked first whether it has the size
of a header. -/
def toBytes : Value → Except Fault (List UInt8)
  | bytes bs => .ok bs
  | json v =>
    match size? v with
    | none => .error (.wrongKind .sized v.kind)
    | some n =>
      if n < Frame.headerSize then .error (.malformedFrame (.header Frame.headerSize n))
      else .error (.wrongKind .bytes v.kind)
  | v => .error (.wrongKind .sized v.kind)

/-- The bytes that a value is, where a null stands for none. -/
def toBytes? : Value → Except Fault (Option (List UInt8))
  | json .null => .ok none
  | v => v.toBytes.map some

/-- How the sign of a wire value is shown where the text that tells the variant of a
document is wanted. -/
def shownSign : Numeric → String
  | .number n =>
    match n.sign with
    | .positive => "Sign.POSITIVE"
    | .negative => "Sign.NEGATIVE"
  | .nan => "Sign.NAN"

/-- The wire value of something in the place of a JSON value. A document is one already
checked; a wire value has a sign, but not that of a document, and a decimal has none. -/
def checkJson : Value → Except Fault Numeric
  | json v => Numeric.ofJson v
  | document d => d.toNumeric
  | numeric w => .error (.invalidDocument [⟨[], .signUnknown (shownSign w)⟩])
  | quantity _ => .error (.invalidDocument [⟨[], .signMissing⟩])
  | bytes _ => .error (.invalidDocument [⟨[], .notObject .value⟩])

end Value

namespace Stage

/-- What a stage makes of a value. -/
def apply (settings : Settings) (v : Value) : Stage → Except Fault Value
  | encode => do return .numeric (← Numeric.ofQuantity settings (← v.toQuantity))
  | decode => do return .quantity (.finite (← (← v.toNumeric .wireValueToDecode).toDecimal))
  | pack => do return .bytes (← Frame.pack (← v.toNumeric .wireValueToPack))
  | unpack => do return .numeric (← Frame.unpack (← v.toBytes))
  | encodeFrame => do return .bytes (← Frame.ofQuantity settings (← v.toQuantity))
  | decodeFrame => do return .quantity (.finite (← Frame.toDecimal? (← v.toBytes?)))
  | toDocument => do return .document (← Document.ofNumeric (← v.toNumeric .wireValue))
  | ofDocument => do return .numeric (← (← v.toDocument).toNumeric)
  | toJson => do return .json (← (← v.toNumeric .wireValue).toJson)
  | ofJson => do return .numeric (← v.checkJson)

end Stage

/-- The results of the stages on a value, in order, up to the first fault. -/
def run (settings : Settings) (v : Value) : List Stage → List (Except Fault Value)
  | [] => []
  | stage :: rest =>
    match stage.apply settings v with
    | .ok next => .ok next :: run settings next rest
    | .error fault => [.error fault]

end Pipeline

end NumericWire
