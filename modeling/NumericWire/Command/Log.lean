import NumericWire.Command
/-!
# NumericWire.Command.Log

**The log of a command**: what its conversions report on the way, and at last the fault that
it fails with. An event is a word with fields; how it is laid out in a line, with the time
in front, is left to the logger.

A conversion reports what it has worked out. On the way out that is the header of a number,
which zero and not-a-number do not need; on the way back it is a number's exponent, or that
there is none.
-/

namespace NumericWire

/-- What a command reports of its work. -/
inductive Event
  /-- A decimal has become a number on the wire. -/
  | encoded (sign : Sign) (weight : Int) (scale digitCount : Nat)
  /-- A number on the wire has become a decimal. -/
  | decoded (weight : Int) (digitCount : Nat) (exponent : Int)
  /-- Not-a-number has been met on the way back. -/
  | nanMet
  | failed (name : Command.Name) (fault : Fault)
  deriving DecidableEq, Repr

namespace Event

/-- The word of an event. -/
def word : Event → String
  | encoded .. => "numeric_encoded"
  | decoded .. => "numeric_decoded"
  | nanMet => "numeric_decode_nan"
  | failed .. => "command_failed"

/-- What is told of an event, by name. -/
def fields : Event → List (String × Json)
  | encoded sign weight scale count =>
    [("negative", .bool (sign = .negative)), ("weight", .int weight), ("scale", .int scale),
      ("ndigits", .int count)]
  | decoded weight count exponent =>
    [("weight", .int weight), ("ndigits", .int count), ("exponent", .int exponent)]
  | nanMet => []
  | failed name fault =>
    [("command", .string name.text), ("error", .string fault.message)]

/-- An event in a line of its own. -/
def text (event : Event) : String :=
  " ".intercalate (event.word :: event.fields.map fun (name, value) => name ++ "=" ++ value.toText)

end Event

namespace Numeric

/-- What is reported where a quantity becomes a wire value. -/
def ofQuantityEvents (settings : Settings) (q : Quantity) : List Event :=
  match q, ofQuantity settings q with
  | .finite x, .ok (.number n) =>
    if x.IsZero then [] else [.encoded n.sign n.weight n.scale n.digits.length]
  | _, _ => []

/-- What is reported where a wire value becomes a decimal. -/
def toDecimalEvents : Numeric → List Event
  | number n => [.decoded n.weight n.digits.length n.toDecimal.exponent]
  | nan => [.nanMet]

end Numeric

namespace Command

/-- The name of a command. -/
def name : Command → Name
  | encode _ => .encode
  | decode _ => .decode
  | pack _ => .pack
  | unpack _ => .unpack

/-- What the conversions of a command report. A text that is no wire value is not
converted. -/
def events (settings : Settings) : Command → List Event
  | encode value | pack value => Numeric.ofQuantityEvents settings value
  | decode wire => back (Numeric.ofJsonText wire)
  | unpack texts => back (do Frame.unpack (← readHex texts))
where
  back : Except Fault Numeric → List Event
    | .ok w => w.toDecimalEvents
    | .error _ => []

end Command

end NumericWire
