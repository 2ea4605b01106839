import StructuredData.Json.Value

/-!
# Requirements

A requirement table gives each type the properties that its documents must have and those that
they should have.  The packaged table covers the known types.
-/

namespace StructuredData

/-- The properties a type must have, and those it should have. -/
structure Requirement where
  required : List Text
  recommended : List Text
deriving DecidableEq

/-- Requirements by type name, in the order of the table's source. -/
abbrev RequirementTable := List (Text × Requirement)

namespace RequirementTable

/-- The requirement of a type. -/
def find? (table : RequirementTable) (name : Text) : Option Requirement :=
  (List.find? (fun entry => entry.1 = name) table).map (·.2)

/-- Enters a requirement: in place where the type is there, at the end otherwise. -/
def put (name : Text) (r : Requirement) : RequirementTable → RequirementTable
  | [] => [(name, r)]
  | entry :: rest => if entry.1 = name then (name, r) :: rest else entry :: put name r rest

/-- The properties every known type must have before its own. -/
def withKeywords (own : List String) : List Text :=
  (["@context", "@type"] ++ own).map Text.ofString

/-- An entry of the packaged table. -/
def packagedEntry (name : String) (required recommended : List String) : Text × Requirement :=
  (Text.ofString name, ⟨withKeywords required, recommended.map Text.ofString⟩)

/-- The packaged table. -/
def packaged : RequirementTable :=
  [packagedEntry "Article" ["headline"]
      ["author", "datePublished", "dateModified", "publisher", "description", "image"],
    packagedEntry "Product" ["name"]
      ["description", "image", "brand", "offers", "aggregateRating", "review"],
    packagedEntry "Organization" ["name"]
      ["url", "logo", "description", "address", "contactPoint"],
    packagedEntry "Person" ["name"] ["url", "image", "description", "jobTitle", "worksFor"],
    packagedEntry "Event" ["name", "startDate"]
      ["endDate", "location", "description", "organizer", "offers"],
    packagedEntry "BreadcrumbList" ["itemListElement"] ["numberOfItems"],
    packagedEntry "FAQPage" ["mainEntity"] ["name", "description"],
    packagedEntry "HowTo" ["name", "step"]
      ["description", "image", "totalTime", "supply", "tool"],
    packagedEntry "Review" ["reviewRating", "author"]
      ["itemReviewed", "reviewBody", "datePublished"],
    packagedEntry "LocalBusiness" ["name", "address"]
      ["telephone", "url", "openingHours", "priceRange"],
    packagedEntry "WebSite" ["name", "url"] ["description", "potentialAction"]]

end RequirementTable

end StructuredData
