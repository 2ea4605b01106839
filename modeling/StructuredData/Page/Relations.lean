import StructuredData.Check.Basic
import StructuredData.KnownType
import StructuredData.Submission
import StructuredData.Thresholds.Basic

/-!
# How the documents of a page relate

Some remarks concern a page as a whole: types that compete for the same place in search results, a
site without an identity, documents whose declared type promises more than they hold, and the
number of types.  They look at declared types and texts only, and read the texts once more.

Recommendations are advice that follows from which types the page declares.
-/

namespace StructuredData

namespace Page

/-- Whether a page declares a type. -/
def declares (ss : List Submission) (t : Text) : Bool := ss.any fun s => s.label.isText t

/-- Types that compete for the same place in search results. -/
def conflictingPairs : List (Text × Text) :=
  [("Recipe", "HowTo"), ("Product", "Recipe"), ("Event", "Article"), ("FAQPage", "Article"),
    ("Review", "Article")]

/-- Types that tell whose site it is. -/
def foundationalTypes : List Text := ["Organization", "WebSite"]

/-- Types that describe the main content of a page. -/
def contentTypes : List Text := ["Article", "Product", "Event", "FAQPage"]

/-! ## Remarks -/

/-- Warnings for types that compete. -/
def conflicts (ss : List Submission) : List Finding :=
  conflictingPairs.flatMap fun (a, b) =>
    Check.when (declares ss a && declares ss b)
      (.warning ("Potential conflict between " ++ a ++ " and " ++ b ++ " schemas")
        ("These schema types may compete for rich snippet display. " ++
          "Consider prioritizing the most relevant one."))

/-- Note for a page that does not tell whose site it is. -/
def foundation (ss : List Submission) : List Finding :=
  Check.when (!foundationalTypes.any (declares ss))
    (.note "Consider adding Organization or WebSite schema"
      ("Organization schema helps establish site identity, " ++
        "WebSite schema provides site-level metadata"))

/-- Whether an article has all that one should have. -/
def isCompleteArticle (d : Document) : Bool :=
  d.has "headline" && d.has "description" && (d.has "author" || d.has "publisher") &&
    (d.has "datePublished" || d.has "dateModified")

/-- Whether a product can be bought. -/
def isCompleteProduct (d : Document) : Bool :=
  d.has "offers" || d.has "price" || d.has "availability"

/-- Whether an organization can be reached. -/
def isCompleteOrganization (d : Document) : Bool := d.has "address" && d.has "contactPoint"

/-- Warning for an object that lacks what its declared type promises. -/
def incomplete (label : Value) (d : Document) : List Finding :=
  if label.isText "Article" then
    Check.when (!isCompleteArticle d)
      (.warning "Article schema may be missing essential properties"
        ("Ensure Article schema includes headline, description, " ++
          "author/publisher, and publication dates"))
  else if label.isText "Product" then
    Check.when (!isCompleteProduct d)
      (.warning "Product schema may be missing commercial properties"
        "Include offers, price, or availability information for better rich snippets")
  else if label.isText "Organization" then
    Check.when (!isCompleteOrganization d)
      (.warning "Organization schema may be missing contact information"
        "Include complete address and contact point for better local SEO")
  else []

/-- Warning for a submission that lacks what its declared type promises; only texts that write an
object, nested at most so deep, are looked at. -/
def completeness (depth : Nat) (s : Submission) : List Finding :=
  match s.parsed? depth with
  | some (.object ms) => incomplete s.label ⟨ms⟩
  | _ => []

/-- A boolean as the number it counts as among labels. -/
def boolNumber (b : Bool) : Number := .int (if b then 1 else 0)

/-- Whether two labels count as one type: texts by spelling, numbers and booleans by value. -/
def sameLabel : Value → Value → Bool
  | .string a, .string b => a = b
  | .null, .null => true
  | .number a, .number b => a.same b
  | .bool a, .bool b => a = b
  | .bool a, .number b => (boolNumber a).same b
  | .number a, .bool b => a.same (boolNumber b)
  | _, _ => false

/-- The labels without repetitions. -/
def distinctLabels (labels : List Value) : List Value :=
  labels.foldl (fun seen l => if seen.any (sameLabel l) then seen else seen ++ [l]) []

/-- The number of types a page declares. -/
def typeCount (ss : List Submission) : Except ValidationFault Nat := do
  return (distinctLabels (← ss.mapM fun s => s.label.asKey)).length

/-- Remark on the number of types.  Limits of more than 4300 digits, which could not be shown, are
not considered, as in `Check.TypeSpecific`. -/
def typeCountRemark (t : Thresholds) (count : Nat) : List Finding :=
  if t.maxSchemaTypes < (count : Int) then
    [.warning "High number of schema types detected"
      ("Consider limiting to " ++ Text.ofInt t.minSchemaTypes ++ "-" ++
        Text.ofInt t.maxSchemaTypes ++ " relevant schemas per page for optimal SEO performance")]
  else
    Check.when ((count : Int) < t.minSchemaTypes)
      (.note "Consider adding more schema types"
        "Multiple relevant schemas can enhance search engine understanding")

/-- All remarks on a page whose texts are read up to a depth. -/
def remarks (t : Thresholds) (depth : Nat) (ss : List Submission) :
    Except ValidationFault (List Finding) := do
  let count ← typeCount ss
  return conflicts ss ++ foundation ss ++ ss.flatMap (completeness depth) ++
    typeCountRemark t count

/-! ## Recommendations -/

/-- The advice, if the condition holds. -/
def advise (condition : Bool) (advice : Text) : List Text := if condition then [advice] else []

/-- The advice for a page. -/
def recommendations (t : Thresholds) (ss : List Submission) : List Text :=
  advise (declares ss "Article" && !declares ss "WebSite")
      "Add WebSite schema to establish site-level metadata" ++
    advise (declares ss "Product" && !declares ss "Organization")
      "Add Organization schema to establish business identity" ++
    advise (declares ss "LocalBusiness" && !declares ss "Organization")
      "Consider adding Organization schema for business verification" ++
    advise (declares ss "FAQPage" && (ss.length : Int) < t.faqMinSchemaTypes)
      "FAQ pages benefit from additional schemas like Article or WebSite" ++
    advise (!contentTypes.any (declares ss))
      "Consider content-specific schemas like Article, Product, or Event"

end Page

end StructuredData
