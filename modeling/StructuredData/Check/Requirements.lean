import StructuredData.Check.Basic
import StructuredData.Requirement.Basic

/-!
# Required and recommended properties

A document should have the type it is declared to have.  Its properties are held against the entry
of its own first type if the table has one, and of the declared type otherwise.
-/

namespace StructuredData

namespace RequirementTable

/-- The entry that a label finds, none for a label that is no text. -/
def ofLabel (table : RequirementTable) (label : Value) :
    Except ValidationFault (Option Requirement) := do
  return (← label.asKey).text?.bind table.find?

/-- The entry for a document that is declared with a label. -/
def select (table : RequirementTable) (d : Document) (label : Value) :
    Except ValidationFault (Option Requirement) :=
  match d.primaryType.bind table.find? with
  | some r => .ok (some r)
  | none => table.ofLabel label

end RequirementTable

namespace Check

/-- Whether a label is one of the types a document names. -/
def isDeclaredType (d : Document) (label : Value) : Bool := d.types.any fun t => label.isText t

end Check

namespace Checking

/-- Checks that the types of a document include the declared one. -/
def mismatch (d : Document) (label : Value) : Checking Unit :=
  recordIf (!d.types.isEmpty && !Check.isDeclaredType d label)
    (.warning
      ("Schema type mismatch: expected \"" ++ label.spelled ++ "\", got \"" ++
        Text.join ", " d.types ++ "\"")
      "Ensure the @type matches the intended schema type")

/-- Checks that a document has the required properties. -/
def missingRequired (d : Document) (r : Requirement) : Checking Unit :=
  r.required.forM fun p =>
    recordIf (!d.has p)
      (.errorAt p ("Missing required property: " ++ p)
        ("Add \"" ++ p ++ "\" property to your schema"))

/-- Checks that a document has the recommended properties. -/
def missingRecommended (d : Document) (r : Requirement) : Checking Unit :=
  r.recommended.forM fun p =>
    recordIf (!d.has p)
      (.warningAt p ("Missing recommended property: " ++ p)
        ("Consider adding \"" ++ p ++ "\" for better SEO"))

/-- Checks the type and the properties of a document that is declared with a label. -/
def requirements (table : RequirementTable) (d : Document) (label : Value) : Checking Unit := do
  mismatch d label
  match ← ofExcept (table.select d label) with
  | none => pure ()
  | some r =>
    missingRequired d r
    missingRecommended d r

end Checking

end StructuredData
