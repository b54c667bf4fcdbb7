/-!
# NumericWire.Document.Issue

What can be wrong with the JSON form of a wire value. An **issue** is a problem at a
location; checking a document collects all of its issues. Each problem has a code, which
names its class, and a message for the reader.
-/

namespace NumericWire

namespace Document

/-- One step into a document: to a field of an object or an item of a list. -/
inductive Step
  | field (name : String)
  | item (position : Nat)
  deriving DecidableEq, Repr

/-- Where a document comes from: a value in memory, or a JSON text. -/
inductive Source
  | value
  | text
  deriving DecidableEq, Repr

/-- A problem, without its location. -/
inductive Problem
  /-- The text is no JSON. -/
  | malformedText
  /-- An object is wanted. -/
  | notObject (source : Source)
  /-- A sample, a literal with its wire value, is wanted. -/
  | notSample
  /-- No field tells the variant of wire value. -/
  | signMissing
  /-- The field that tells the variant holds something else, shown as text. -/
  | signUnknown (shown : String)
  /-- A field that the variant has is absent. -/
  | fieldMissing
  /-- A field that the variant does not have is present. -/
  | fieldUnknown
  | notString
  | notList (source : Source)
  /-- Neither an integer nor anything that is taken for one. -/
  | notInteger
  /-- A text that does not spell an integer. -/
  | notNumeral
  /-- An integer that is too long or too large to be taken over. -/
  | numeralTooLarge
  /-- A floating-point number that is no integer. -/
  | fractional
  /-- An infinity or not-a-number. -/
  | notFinite
  | tooSmall (least : Int)
  | tooLarge (greatest : Int)
  deriving DecidableEq, Repr

namespace Problem

/-- The name of a problem's class. -/
def code : Problem → String
  | malformedText => "json_invalid"
  | notObject .value => "model_attributes_type"
  | notObject .text => "dict_type"
  | notSample => "model_type"
  | signMissing => "union_tag_not_found"
  | signUnknown _ => "union_tag_invalid"
  | fieldMissing => "missing"
  | fieldUnknown => "extra_forbidden"
  | notString => "string_type"
  | notList _ => "list_type"
  | notInteger => "int_type"
  | notNumeral => "int_parsing"
  | numeralTooLarge => "int_parsing_size"
  | fractional => "int_from_float"
  | notFinite => "finite_number"
  | tooSmall _ => "greater_than_equal"
  | tooLarge _ => "less_than_equal"

/-- What a reader is told about a problem. -/
def message : Problem → String
  | malformedText => "Invalid JSON"
  | notObject .value => "Input should be a valid dictionary or object to extract fields from"
  | notObject .text => "Input should be an object"
  | notSample => "Input should be a valid dictionary or instance of NumericCase"
  | signMissing => "Unable to extract tag using discriminator 'sign'"
  | signUnknown shown =>
    s!"Input tag '{shown}' found using 'sign' does not match any of the expected tags: " ++
      "'positive', 'negative', 'nan'"
  | fieldMissing => "Field required"
  | fieldUnknown => "Extra inputs are not permitted"
  | notString => "Input should be a valid string"
  | notList .value => "Input should be a valid list"
  | notList .text => "Input should be a valid array"
  | notInteger => "Input should be a valid integer"
  | notNumeral => "Input should be a valid integer, unable to parse string as an integer"
  | numeralTooLarge => "Unable to parse input string as an integer, exceeded maximum size"
  | fractional => "Input should be a valid integer, got a number with a fractional part"
  | notFinite => "Input should be a finite number"
  | tooSmall least => s!"Input should be greater than or equal to {least}"
  | tooLarge greatest => s!"Input should be less than or equal to {greatest}"

end Problem

/-- A problem and where it is, from the root of the document inwards. -/
structure Issue where
  location : List Step
  problem : Problem
  deriving DecidableEq, Repr

namespace Issue

/-- The same issue, seen from one step further out. -/
def under (step : Step) (issue : Issue) : Issue :=
  { issue with location := step :: issue.location }

@[simp] theorem under_problem (step : Step) (issue : Issue) :
    (issue.under step).problem = issue.problem := rfl

@[simp] theorem under_location (step : Step) (issue : Issue) :
    (issue.under step).location = step :: issue.location := rfl

end Issue

end Document

end NumericWire
