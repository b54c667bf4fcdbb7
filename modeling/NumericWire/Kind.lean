/-!
# NumericWire.Kind

The **kinds of values** that can be handed to an operation that wants another kind, with
the names that messages use for them.
-/

namespace NumericWire

/-- What kind of value something is. The last three are the JSON forms of the three
variants of a wire value before them. -/
inductive Kind
  | null
  | bool
  | int
  | float
  | string
  | list
  | object
  | bytes
  | decimal
  | positive
  | negative
  | notANumber
  | positiveDocument
  | negativeDocument
  | notANumberDocument
  deriving DecidableEq, Repr

namespace Kind

/-- The name of a kind in messages. -/
def name : Kind → String
  | null => "NoneType"
  | bool => "bool"
  | int => "int"
  | float => "float"
  | string => "str"
  | list => "list"
  | object => "dict"
  | bytes => "bytes"
  | decimal => "Decimal"
  | positive => "Positive"
  | negative => "Negative"
  | notANumber => "NotANumber"
  | positiveDocument => "PositiveModel"
  | negativeDocument => "NegativeModel"
  | notANumberDocument => "NotANumberModel"

/-- The name with the module that defines the kind, where it has one: the form used when
a value of the kind is asked for its size. -/
def qualifiedName : Kind → String
  | decimal => "decimal.Decimal"
  | kind => kind.name

end Kind

end NumericWire
