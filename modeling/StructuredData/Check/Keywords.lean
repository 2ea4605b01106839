import StructuredData.Check.Basic

/-!
# Keywords

Every document needs a vocabulary (`@context`) and a type (`@type`), and should have an identifier
(`@id`).  One spelling of the vocabulary passes without remark.
-/

namespace StructuredData

namespace Check

/-- The spelling of the vocabulary that passes without remark. -/
def standardContext : Text := "https://schema.org"

end Check

namespace Checking

/-- Checks the vocabulary. -/
def contextKeyword (d : Document) : Checking Unit :=
  if !d.has "@context" then
    record
      (.error "Missing @context property" "Add \"@context\": \"https://schema.org\" to your schema")
  else
    recordIf (!(d.get "@context").isText Check.standardContext)
      (.warning "Non-standard @context value"
        "Consider using \"https://schema.org\" for better compatibility")

/-- Checks the keywords of a document. -/
def keywords (d : Document) : Checking Unit := do
  contextKeyword d
  recordIf (!d.has "@type")
    (.error "Missing @type property" "Add \"@type\" property to specify the schema type")
  recordIf (!d.has "@id")
    (.warning "Missing @id property"
      "Consider adding \"@id\" for better entity identification")

end Checking

end StructuredData
