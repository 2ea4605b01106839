import StructuredData.Check.Basic
import StructuredData.Format
import StructuredData.KnownType
import StructuredData.Thresholds.Basic

/-!
# Properties with a meaning of their own

Some known types give properties a meaning beyond their presence: dates of articles and events,
the price of a product's offer, the steps of an instruction, and so on.  Persons, web sites and
unknown types have no such properties.

The message on a long headline shows the limit.  A limit of more than 4300 digits could not be
shown, and the check would fail; no file and no variable gives such a limit, and none is considered
here.
-/

namespace StructuredData

namespace Check

/-- How to write a date. -/
def dateSuggestion : Text :=
  "Use strict ISO 8601 format: \"YYYY-MM-DD\" (e.g., \"2024-01-15\") or " ++
  "\"YYYY-MM-DDTHH:mm:ssZ\" (e.g., \"2024-01-15T14:30:00Z\"). " ++
  "Do not use formats like \"01/15/2024\" or \"January 15, 2024\""

/-- Whether a property holds a text longer than a limit. -/
def isLongerThan (d : Document) (name : Text) (limit : Int) : Bool :=
  (d.someText? name).any fun t => limit < (t.length : Int)

end Check

namespace Checking

/-- Checks that a date, if it is supplied, has the form of one. -/
def date (d : Document) (name : Text) : Checking Unit :=
  let v := d.get name
  recordIf (v.isPresent && !v.hasFormat .date)
    (.errorAt name ("Invalid " ++ name ++ " format") Check.dateSuggestion)

/-- Checks an article. -/
def article (t : Thresholds) (d : Document) : Checking Unit := do
  recordIf (Check.isLongerThan d "headline" t.headlineMaxLength)
    (.warningAt "headline" "Headline is too long"
      ("Keep headlines under " ++ Text.ofInt t.headlineMaxLength ++
        " characters for better SEO"))
  recordIf (d.someText? "author").isSome
    (.warningAt "author" "Author should be an object with name property"
      "Use \x7b\"@type\": \"Person\", \"name\": \"Author Name\"\x7d format")
  date d "datePublished"
  date d "dateModified"

/-- Checks that a property that holds a text holds a web address. -/
def linkText (d : Document) (name : Text) (message suggestion : Text) : Checking Unit :=
  recordIf ((d.someText? name).any fun t => !Format.url.accepts t)
    (.errorAt name message suggestion)

/-- Checks a product. -/
def product (d : Document) : Checking Unit := do
  let offers := d.get "offers"
  recordIf (offers.isPresent && !offers.has "price")
    (.warningAt "offers.price" "Product offers should include price"
      "Add \"price\" property to offers for better rich snippets")
  linkText d "image" "Invalid image URL format" "Use a valid HTTP/HTTPS URL for the image"

/-- Checks an organization. -/
def organization (d : Document) : Checking Unit := do
  linkText d "logo" "Invalid logo URL format" "Use a valid HTTP/HTTPS URL for the logo"
  let telephone := d.lookup "contactPoint.telephone"
  recordIf (telephone.isPresent && !telephone.hasFormat .phone)
    (.warningAt "contactPoint.telephone" "Invalid phone number format"
      "Use international format: +1234567890")

/-- Checks an event. -/
def event (d : Document) : Checking Unit := do
  date d "startDate"
  date d "endDate"

/-- Checks that an element has a property; elements are counted from one in messages. -/
def itemLacks (list noun property suggestion : Text) (i : Nat) (item : Value) : Checking Unit :=
  recordIf (!item.has property)
    (.errorAt (Check.itemPath list i property)
      (noun ++ " " ++ Text.ofNat (i + 1) ++ " missing " ++ property) suggestion)

/-- Checks a breadcrumb list. -/
def breadcrumbList (d : Document) : Checking Unit :=
  eachItemOf (d.get "itemListElement")
    (itemLacks "itemListElement" "Breadcrumb item" "name"
      "Add \"name\" property to each breadcrumb item")

/-- Checks one question of a page of questions. -/
def faqItem (i : Nat) (item : Value) : Checking Unit := do
  itemLacks "mainEntity" "FAQ" "question" "Add \"question\" property to each FAQ item" i item
  itemLacks "mainEntity" "FAQ" "answer" "Add \"answer\" property to each FAQ item" i item

/-- Checks a page of questions. -/
def faqPage (d : Document) : Checking Unit := eachItemOf (d.get "mainEntity") faqItem

/-- Checks an instruction. -/
def howTo (d : Document) : Checking Unit :=
  eachItemOf (d.get "step")
    (itemLacks "step" "HowTo step" "name" "Add \"name\" property to each step")

/-- Checks a review. -/
def review (d : Document) : Checking Unit :=
  let rating := d.get "reviewRating"
  recordIf (rating.isPresent && !(rating.has "ratingValue" && rating.has "bestRating"))
    (.errorAt "reviewRating" "Review rating missing required properties"
      "Add \"ratingValue\" and \"bestRating\" to reviewRating")

/-- Checks a local business. -/
def localBusiness (d : Document) : Checking Unit :=
  let address := d.get "address"
  recordIf (address.isPresent && !(address.has "streetAddress" && address.has "addressLocality"))
    (.warningAt "address" "Address missing recommended properties"
      "Add \"streetAddress\" and \"addressLocality\" to address")

/-- Checks the properties that have a meaning for the type a label spells. -/
def typeSpecific (t : Thresholds) (d : Document) (label : Value) : Checking Unit :=
  match KnownType.ofLabel? label with
  | some .article => article t d
  | some .product => product d
  | some .organization => organization d
  | some .event => event d
  | some .breadcrumbList => breadcrumbList d
  | some .faqPage => faqPage d
  | some .howTo => howTo d
  | some .review => review d
  | some .localBusiness => localBusiness d
  | _ => pure ()

end Checking

end StructuredData
