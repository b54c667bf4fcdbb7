import NumericWire.Document.Integer
import NumericWire.Json.Printer
import NumericWire.Json.Reader
import NumericWire.Numeric
/-!
# NumericWire.Document

**The JSON form of wire values.** A document is an object whose field `sign` tells the
variant: a positive or negative number with the fields `weight`, `scale` and `digits`, or
not-a-number with no other field.

Checking a JSON value collects **all** of its issues, in the order weight, scale, digits,
unknown fields. A document that passes is turned into a wire value by the same constructor
as any other parts.
-/

namespace NumericWire

/-- The JSON form of a wire value. -/
inductive Document
  | number (sign : Sign) (weight scale : Int) (digits : List Int)
  | nan
  deriving DecidableEq, Repr

namespace Document

/-- The text that tells a variant of number. -/
def signText : Sign → String
  | .positive => "positive"
  | .negative => "negative"

/-- The text that tells not-a-number. -/
def nanText : String := "nan"

/-- The kind of a document. -/
def kind : Document → Kind
  | number .positive _ _ _ => .positiveDocument
  | number .negative _ _ _ => .negativeDocument
  | nan => .notANumberDocument

/-- The JSON value of a document. -/
def toJson : Document → Json
  | number sign weight scale digits =>
    .object [("sign", .string (signText sign)), ("weight", .int weight), ("scale", .int scale),
      ("digits", .list (digits.map .int))]
  | nan => .object [("sign", .string nanText)]

/-! ### Checking -/

/-- The field of a name, as an integer between two bounds. -/
def integerField (least greatest : Int) (name : String) (fields : List (String × Json)) :
    Except (List Issue) Int :=
  match Json.field? name fields with
  | none => .error [⟨[.field name], .fieldMissing⟩]
  | some v =>
    match boundedInteger least greatest v with
    | .error problem => .error [⟨[.field name], problem⟩]
    | .ok n => .ok n

/-- A digit of a document. -/
def digit (v : Json) : Except Problem Int := boundedInteger 0 Base10000.maxDigit v

/-- The issues of the items of a list of digits that starts at a position. -/
def digitIssues (position : Nat) : List Json → List Issue
  | [] => []
  | v :: rest =>
    match digit v with
    | .error problem => ⟨[.item position], problem⟩ :: digitIssues (position + 1) rest
    | .ok _ => digitIssues (position + 1) rest

/-- The digits among the items of a list. -/
def digitValues (items : List Json) : List Int := items.filterMap fun v => (digit v).toOption

/-- The field `digits`, as a list of digits. -/
def digitsField (source : Source) (fields : List (String × Json)) :
    Except (List Issue) (List Int) :=
  match Json.field? "digits" fields with
  | none => .error [⟨[.field "digits"], .fieldMissing⟩]
  | some (.list items) =>
    match digitIssues 0 items with
    | [] => .ok (digitValues items)
    | issues => .error (issues.map (Issue.under (.field "digits")))
  | some _ => .error [⟨[.field "digits"], .notList source⟩]

/-- One issue for each field of an unknown name, in the order of the fields. -/
def unknownFields (known : List String) (fields : List (String × Json)) : List Issue :=
  (fields.filter fun (name, _) => name ∉ known).map fun (name, _) =>
    ⟨[.field name], .fieldUnknown⟩

/-- The issues of a checked part. -/
def issuesOf {α : Type} : Except (List Issue) α → List Issue
  | .error issues => issues
  | .ok _ => []

/-- Checks the fields of a number. -/
def checkNumber (source : Source) (sign : Sign) (fields : List (String × Json)) :
    Except (List Issue) Document :=
  let weight := integerField Numeric.minWeight Numeric.maxWeight "weight" fields
  let scale := integerField 0 Numeric.maxScale "scale" fields
  let digits := digitsField source fields
  let unknown := unknownFields ["sign", "weight", "scale", "digits"] fields
  match weight, scale, digits, unknown with
  | .ok w, .ok s, .ok ds, [] => .ok (number sign w s ds)
  | _, _, _, _ => .error (issuesOf weight ++ issuesOf scale ++ issuesOf digits ++ unknown)

/-- Checks that not-a-number has no other field. -/
def checkNan (fields : List (String × Json)) : Except (List Issue) Document :=
  match unknownFields ["sign"] fields with
  | [] => .ok nan
  | issues => .error issues

/-- Puts the issues of a check one step further in. -/
def within {α : Type} (name : String) : Except (List Issue) α → Except (List Issue) α
  | .error issues => .error (issues.map (Issue.under (.field name)))
  | .ok a => .ok a

/-- Checks the fields of an object as the variant that its field `sign` tells. -/
def checkFields (source : Source) (fields : List (String × Json)) :
    Except (List Issue) Document :=
  match Json.field? "sign" fields with
  | none => .error [⟨[], .signMissing⟩]
  | some v =>
    match v with
    | .string "positive" => within "positive" (checkNumber source .positive fields)
    | .string "negative" => within "negative" (checkNumber source .negative fields)
    | .string "nan" => within "nan" (checkNan fields)
    -- The text is compared as it stands: no coercion and no other case of letters.
    | v => .error [⟨[], .signUnknown v.shown⟩]

/-- Checks a JSON value from the given source. -/
def check (source : Source) : Json → Except (List Issue) Document
  | .object fields => checkFields source fields
  | _ => .error [⟨[], .notObject source⟩]

/-- Checks a JSON value in memory, where an object has each name once. -/
def ofJson (v : Json) : Except (List Issue) Document := check .value v.distinct

/-- Checks a JSON text. A name that stands twice in an object counts once, in its first place
and with its last value. -/
def ofText (s : String) : Except (List Issue) Document :=
  match Json.ofText? Json.Limits.strict s with
  | none => .error [⟨[], .malformedText⟩]
  | some v => check .text v.distinct

/-! ### Wire values -/

/-- The wire value of a document. -/
def toNumeric : Document → Except Fault Numeric
  | number sign weight scale digits => Numeric.ofParts sign weight scale digits
  | nan => .ok .nan

/-- The parts of a wire value, as a document that has not been checked. -/
def ofParts : Numeric → Document
  | .number n => number n.sign n.weight n.scale (n.digits.map Int.ofNat)
  | .nan => nan

/-- A failed check, as a fault. -/
def orFault {α : Type} : Except (List Issue) α → Except Fault α
  | .ok a => .ok a
  | .error issues => .error (.invalidDocument issues)

/-- The document of a wire value; its parts are checked like those of any document. -/
def ofNumeric (w : Numeric) : Except Fault Document := orFault (ofJson (ofParts w).toJson)

end Document

namespace Numeric

/-- The JSON value of a wire value. -/
def toJson (w : Numeric) : Except Fault Json := (Document.ofNumeric w).map Document.toJson

/-- The wire value of a JSON value in memory. -/
def ofJson (v : Json) : Except Fault Numeric :=
  match Document.orFault (Document.ofJson v) with
  | .ok d => d.toNumeric
  | .error fault => .error fault

/-- The wire value of a JSON text. -/
def ofJsonText (s : String) : Except Fault Numeric :=
  match Document.orFault (Document.ofText s) with
  | .ok d => d.toNumeric
  | .error fault => .error fault

end Numeric

end NumericWire
