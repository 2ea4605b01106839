import StructuredData.Check.Basic
import StructuredData.Format
import StructuredData.Number.Reading
import StructuredData.Thresholds.Basic

/-!
# Formats of common properties

Whatever its type, a document's web addresses, mail address, images, offers, rating and postal
code must have their formats.
-/

namespace StructuredData

namespace Check

/-- Properties whose texts must be web addresses. -/
def linkProperties : List Text := ["url", "image", "logo", "sameAs", "mainEntityOfPage", "item"]

/-- Properties whose texts should name image files. -/
def imageProperties : List Text := ["image", "logo", "photo"]

/-- The standard values of an offer's availability. -/
def standardAvailabilities : List Text :=
  ["InStock", "OutOfStock", "PreOrder", "SoldOut", "Discontinued"]

/-- Whether a value is supplied and has not the format. -/
def breaks (v : Value) (f : Format) : Bool := v.isPresent && !v.hasFormat f

/-- Whether an availability is supplied and is none of the standard values. -/
def isOddAvailability (v : Value) : Bool :=
  v.isPresent && !standardAvailabilities.any fun t => v.isText t

/-- The finite number that a rating gives, as a number or as a text that reads as one. -/
def ratingNumber (v : Value) : Except ValidationFault (Option Binary64) :=
  match v with
  | .number (.int n) =>
    let x := Binary64.ofInt n
    if x.isFinite then .ok (some x) else .error .ratingTooLarge
  | .number (.float x) => .ok (if x.isFinite then some x else none)
  | .string t => .ok ((Numeral.readFloat? t.strip).filter Binary64.isFinite)
  | _ => .ok none

/-- Whether a rating value is supplied and lies outside the limits. -/
def isOddRating (t : Thresholds) (v : Value) (x : Option Binary64) : Bool :=
  v.isPresent && x.any fun x => !(t.ratingMin.le (.float x) && (Number.float x).le t.ratingMax)

/-- Whether a best rating is supplied and differs from the usual one. -/
def isOddBest (t : Thresholds) (v : Value) : Bool :=
  v.isPresent && match v with
    | .number n => !n.same t.bestRating
    | _ => true

end Check

namespace Checking

/-- Checks that the texts of some properties are web addresses. -/
def links (d : Document) : Checking Unit :=
  Check.linkProperties.forM fun p =>
    recordIf ((d.someText? p).any fun t => !Format.url.accepts t)
      (.errorAt p ("Invalid URL format for " ++ p) "Use a valid HTTP/HTTPS URL")

/-- Checks the mail address. -/
def email (d : Document) : Checking Unit :=
  recordIf (Check.breaks (d.get "email") .email)
    (.errorAt "email" "Invalid email format" "Use a valid email address format")

/-- Checks that the texts of some properties name image files. -/
def images (d : Document) : Checking Unit :=
  Check.imageProperties.forM fun p =>
    recordIf ((d.someText? p).any fun t => !Format.imageUrl.accepts t)
      (.warningAt p ("Image URL may not be a valid image format for " ++ p)
        "Use JPG, PNG, GIF, WebP, or SVG image formats")

/-- Checks one offer of a list; only objects are offers. -/
def offer (i : Nat) (item : Value) : Checking Unit := do
  let place : Text := "offers[" ++ Text.ofNat i ++ "]"
  recordIf (item.isObject && Check.breaks (item.get "price") .price)
    (.errorAt (Check.itemPath "offers" i "price") ("Invalid price format in " ++ place)
      "Use numeric format like 19.99")
  recordIf (item.isObject && Check.breaks (item.get "priceCurrency") .currency)
    (.errorAt (Check.itemPath "offers" i "priceCurrency") ("Invalid currency code in " ++ place)
      "Use 3-letter ISO 4217 currency code like USD, EUR, GBP")
  recordIf (item.isObject && Check.isOddAvailability (item.get "availability"))
    (.warningAt (Check.itemPath "offers" i "availability")
      ("Non-standard availability value in " ++ place)
      "Use standard Schema.org availability values")

/-- Checks a list of offers. -/
def offers (d : Document) : Checking Unit := eachItemOf (d.get "offers") offer

/-- Checks an aggregate rating. -/
def rating (t : Thresholds) (d : Document) : Checking Unit :=
  match d.get "aggregateRating" with
  | .object ms => do
    let r := Value.object ms
    let x ← ofExcept (Check.ratingNumber (r.get "ratingValue"))
    recordIf (Check.isOddRating t (r.get "ratingValue") x)
      (.warningAt "aggregateRating.ratingValue" "Rating value outside typical 1-5 range"
        "Use values between 1 and 5 for better compatibility")
    recordIf (Check.isOddBest t (r.get "bestRating"))
      (.warningAt "aggregateRating.bestRating" "Best rating is not 5"
        "Use 5 as the best rating for standard 5-star systems")
  | _ => pure ()

/-- Checks the postal code. -/
def postalCode (d : Document) : Checking Unit :=
  recordIf (Check.breaks (d.lookup "address.postalCode") .postalCode)
    (.warningAt "address.postalCode" "Postal code format may be invalid"
      "Check postal code format for the specific country")

/-- Checks the form of the vocabulary. -/
def contextFormat (d : Document) : Checking Unit :=
  recordIf (Check.breaks (d.get "@context") .schemaContext)
    (.warningAt "@context" "Non-standard @context value"
      "Use \"https://schema.org\" for better compatibility")

/-- Checks the formats of common properties. -/
def datatypes (t : Thresholds) (d : Document) : Checking Unit := do
  links d
  email d
  images d
  offers d
  rating t d
  postalCode d
  contextFormat d

end Checking

end StructuredData
