import NumericWire.Document
/-!
# NumericWire.Document.Sample

**Samples**: a decimal literal with the wire value that is expected of it and, if there is
one, a note. Collections of samples are kept as JSON. Neither the expectation nor even the
literal needs to be right.
-/

namespace NumericWire

namespace Document

/-- A literal with the wire value expected of it. -/
structure Sample where
  value : String
  wire : Document
  note : Option String
  deriving DecidableEq, Repr

namespace Sample

/-- The field of a name, as a text. -/
def textField (name : String) : Option Json → Except (List Issue) String
  | none => .error [⟨[.field name], .fieldMissing⟩]
  | some (.string s) => .ok s
  | some _ => .error [⟨[.field name], .notString⟩]

/-- The field of a name, as a text that may be null or absent. -/
def optionalTextField (name : String) : Option Json → Except (List Issue) (Option String)
  | none => .ok none
  | some .null => .ok none
  | some (.string s) => .ok (some s)
  | some _ => .error [⟨[.field name], .notString⟩]

/-- The field of a name, as a document. -/
def documentField (name : String) : Option Json → Except (List Issue) Document
  | none => .error [⟨[.field name], .fieldMissing⟩]
  | some v => within name (check .value v)

/-- Checks a JSON value in memory; fields of other names are left aside. The issues come
in the order value, wire value, note. -/
def ofJson (v : Json) : Except (List Issue) Sample :=
  match v.distinct with
  | .object fields =>
    let value := textField "value" (Json.field? "value" fields)
    let wire := documentField "wire" (Json.field? "wire" fields)
    let note := optionalTextField "note" (Json.field? "note" fields)
    match value, wire, note with
    | .ok value, .ok wire, .ok note => .ok ⟨value, wire, note⟩
    | _, _, _ => .error (issuesOf value ++ issuesOf wire ++ issuesOf note)
  | _ => .error [⟨[], .notSample⟩]

end Sample

end Document

end NumericWire
