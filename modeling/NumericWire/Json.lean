import NumericWire.Binary64
import NumericWire.Kind
/-!
# NumericWire.Json

**JSON values.** Numbers without point and exponent are integers of any size; all others
are floating-point numbers. The fields of an object keep the order in which they stand in
its text, and a name may stand there more than once: `field?` takes the last of them, and
`distinct` is the object that remains when each name is kept once.
-/

namespace NumericWire

/-- A JSON value. -/
inductive Json
  | null
  | bool (b : Bool)
  | int (n : Int)
  | float (x : Binary64)
  | string (s : String)
  | list (items : List Json)
  | object (fields : List (String × Json))
  deriving Repr

namespace Json

/-- The kind of a JSON value. -/
def kind : Json → Kind
  | null => .null
  | bool _ => .bool
  | int _ => .int
  | float _ => .float
  | string _ => .string
  | list _ => .list
  | object _ => .object

/-- The value of the last field of a name. -/
def field? (name : String) (fields : List (String × Json)) : Option Json :=
  fields.foldl (fun found (n, v) => if n = name then some v else found) none

/-- Puts a field behind the others, or its value in the place of an earlier one of the same
name. -/
def insertField (fields : List (String × Json)) (name : String) (value : Json) :
    List (String × Json) :=
  if fields.any (·.1 == name) then
    fields.map fun (n, v) => if n = name then (n, value) else (n, v)
  else fields ++ [(name, value)]

/-- The fields with each name once: in its first place, with its last value. -/
def distinctFields (fields : List (String × Json)) : List (String × Json) :=
  fields.foldl (fun kept (n, v) => insertField kept n v) []

mutual

/-- The value with each name of an object kept once, at every depth. -/
def distinct : Json → Json
  | list items => list (distinctItems items)
  | object fields => object (distinctFields (distinctValues fields))
  | v => v

/-- `distinct` on every item. -/
def distinctItems : List Json → List Json
  | [] => []
  | v :: rest => v.distinct :: distinctItems rest

/-- `distinct` on the value of every field. -/
def distinctValues : List (String × Json) → List (String × Json)
  | [] => []
  | (n, v) :: rest => (n, v.distinct) :: distinctValues rest

end

end Json

end NumericWire
