import StructuredData.Json.Value

/-!
# Documents

A document is the JSON object that a text writes; any other value is a document without members.
Nothing is assumed of its shape: what is not there reads as `null`, on the way down a dotted path
as well as at its end.

A value counts as supplied unless it is `null`, `false`, zero or the empty text.  Empty arrays and
objects count as supplied.
-/

namespace StructuredData

namespace Value

/-- Whether a value counts as supplied. -/
def isPresent : Value → Bool
  | .null => false
  | .bool b => b
  | .number n => !n.isZero
  | .string t => !t.isEmpty
  | .array _ => true
  | .object _ => true

/-- The value of a member, `null` where there is no such member or the value is no object. -/
def get (v : Value) (name : Text) : Value := (v.members.get? name).getD .null

/-- Whether a member's value counts as supplied. -/
def has (v : Value) (name : Text) : Bool := (v.get name).isPresent

end Value

/-- A document: an object's members in order. -/
structure Document where
  members : Members

namespace Document

/-- The document of a value. -/
def ofValue (v : Value) : Document := ⟨v.members⟩

/-- The document as a value. -/
def toValue (d : Document) : Value := .object d.members

/-- The value of a top-level property. -/
def get (d : Document) (name : Text) : Value := d.toValue.get name

/-- Whether a top-level property is supplied. -/
def has (d : Document) (name : Text) : Bool := (d.get name).isPresent

/-- The value at the end of a dotted path. -/
def lookup (d : Document) (path : Text) : Value :=
  (path.splitOn '.').foldl Value.get d.toValue

/-- The text of a top-level property that is a string. -/
def string? (d : Document) (name : Text) : Option Text := (d.get name).text?

/-- The text of a top-level property that is a string with something in it. -/
def someText? (d : Document) (name : Text) : Option Text :=
  (d.string? name).filter fun t => !t.isEmpty

/-- The top-level string properties, in document order. -/
def strings (d : Document) : List (Text × Text) :=
  d.members.filterMap fun m => m.2.text?.map fun t => (m.1, t)

/-- The types that a value of `@type` names: those of its texts that are not empty. -/
def typeNames : Value → List Text
  | .string t => if t.isEmpty then [] else [t]
  | .array items => (items.filterMap Value.text?).filter fun t => !t.isEmpty
  | _ => []

/-- The types the document names. -/
def types (d : Document) : List Text := typeNames (d.get "@type")

/-- The first type the document names. -/
def primaryType (d : Document) : Option Text := d.types.head?

end Document

end StructuredData
