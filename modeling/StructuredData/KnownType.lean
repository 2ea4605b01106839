import StructuredData.Json.Value

/-!
# Known types

The types of the vocabulary that have requirements of their own.  A label names one of them only
by its exact spelling.
-/

namespace StructuredData

/-- The types with requirements of their own. -/
inductive KnownType
  | article
  | product
  | organization
  | person
  | event
  | breadcrumbList
  | faqPage
  | howTo
  | review
  | localBusiness
  | webSite
deriving DecidableEq

namespace KnownType

/-- The known types, in the order of the packaged requirements. -/
def all : List KnownType :=
  [.article, .product, .organization, .person, .event, .breadcrumbList, .faqPage, .howTo, .review,
    .localBusiness, .webSite]

/-- The spelling of a known type. -/
def name : KnownType → Text
  | .article => "Article"
  | .product => "Product"
  | .organization => "Organization"
  | .person => "Person"
  | .event => "Event"
  | .breadcrumbList => "BreadcrumbList"
  | .faqPage => "FAQPage"
  | .howTo => "HowTo"
  | .review => "Review"
  | .localBusiness => "LocalBusiness"
  | .webSite => "WebSite"

/-- The known type that a label spells. -/
def ofLabel? (label : Value) : Option KnownType := all.find? fun t => label.isText t.name

/-- Every known type is found by its own spelling. -/
theorem ofLabel?_name (t : KnownType) : ofLabel? (.string t.name) = some t := by
  cases t <;> decide

end KnownType

end StructuredData
