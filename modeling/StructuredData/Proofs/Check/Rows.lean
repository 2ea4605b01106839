import StructuredData.Check.Content
import StructuredData.Check.Datatypes
import StructuredData.Check.Keywords
import StructuredData.Check.Requirements
import StructuredData.Proofs.Check.Recording
import StructuredData.Proofs.Outcome

/-!
# The rows that checks record

For each check the row of findings that it records, and that it records this row and no other,
whatever is in its collector.  What is said of checks elsewhere is said of their rows.

Two rows may be missing: the one that depends on a look-up in the table, and the one that depends on
the number that a rating gives.
-/

namespace StructuredData

namespace Check

variable {d : Document} {t : Thresholds} {label : Value}

/-- What a check finds in the elements of an array, each taken with its place counted from zero. -/
def eachItem (items : List Value) (check : Nat → Value → List Finding) : List Finding :=
  items.zipIdx.flatMap fun item => check item.2 item.1

/-- What a check finds in the elements of a value, nothing if it is no array. -/
def eachItemOf (v : Value) (check : Nat → Value → List Finding) : List Finding :=
  match v with
  | .array items => eachItem items check
  | _ => []

lemma records_eachItemOf {check : ℕ → Value → Checking Unit} {row : ℕ → Value → List Finding}
    (h : ∀ i item, (check i item).Records (row i item) (.ok ())) (v : Value) :
    (Checking.eachItemOf v check).Records (eachItemOf v row) (.ok ()) := by
  cases v with
  | array items => exact Checking.records_forM fun item _ => h item.2 item.1
  | _ => exact Checking.records_pure ()

/-! ## Keywords -/

/-- Remarks on the vocabulary. -/
def contextKeyword (d : Document) : List Finding :=
  if !d.has "@context" then
    [.error "Missing @context property" "Add \"@context\": \"https://schema.org\" to your schema"]
  else
    when (!(d.get "@context").isText standardContext)
      (.warning "Non-standard @context value"
        "Consider using \"https://schema.org\" for better compatibility")

lemma records_contextKeyword (d : Document) :
    (Checking.contextKeyword d).Records (contextKeyword d) (.ok ()) := by
  unfold Checking.contextKeyword contextKeyword
  split
  · exact Checking.records_record _
  · exact Checking.records_recordIf _ _

/-- Remarks on the keywords of a document. -/
def keywords (d : Document) : List Finding :=
  contextKeyword d ++
    when (!d.has "@type")
      (.error "Missing @type property" "Add \"@type\" property to specify the schema type") ++
    when (!d.has "@id")
      (.warning "Missing @id property"
        "Consider adding \"@id\" for better entity identification")

lemma records_keywords (d : Document) :
    (Checking.keywords d).Records (keywords d) (.ok ()) := by
  unfold Checking.keywords keywords
  simp only [List.append_assoc]
  exact (records_contextKeyword d).seq ((Checking.records_recordIf _ _).seq
    (Checking.records_recordIf _ _))

/-! ## Required and recommended properties -/

/-- Remark on a document whose types do not include the declared one. -/
def mismatch (d : Document) (label : Value) : List Finding :=
  when (!d.types.isEmpty && !isDeclaredType d label)
    (.warning
      ("Schema type mismatch: expected \"" ++ label.spelled ++ "\", got \"" ++
        Text.join ", " d.types ++ "\"")
      "Ensure the @type matches the intended schema type")

lemma records_mismatch (d : Document) (label : Value) :
    (Checking.mismatch d label).Records (mismatch d label) (.ok ()) :=
  Checking.records_recordIf _ _

/-- Errors for the required properties that a document lacks. -/
def missingRequired (d : Document) (r : Requirement) : List Finding :=
  r.required.flatMap fun p =>
    when (!d.has p)
      (.errorAt p ("Missing required property: " ++ p)
        ("Add \"" ++ p ++ "\" property to your schema"))

lemma records_missingRequired (d : Document) (r : Requirement) :
    (Checking.missingRequired d r).Records (missingRequired d r) (.ok ()) :=
  Checking.records_forM fun _ _ => Checking.records_recordIf _ _

/-- Warnings for the recommended properties that a document lacks. -/
def missingRecommended (d : Document) (r : Requirement) : List Finding :=
  r.recommended.flatMap fun p =>
    when (!d.has p)
      (.warningAt p ("Missing recommended property: " ++ p)
        ("Consider adding \"" ++ p ++ "\" for better SEO"))

lemma records_missingRecommended (d : Document) (r : Requirement) :
    (Checking.missingRecommended d r).Records (missingRecommended d r) (.ok ()) :=
  Checking.records_forM fun _ _ => Checking.records_recordIf _ _

/-- Remarks on the type and the properties of a document that is declared with a label. -/
def requirements (table : RequirementTable) (d : Document) (label : Value) :
    Except ValidationFault (List Finding) := do
  let found := match ← table.select d label with
    | none => []
    | some r => missingRequired d r ++ missingRecommended d r
  return mismatch d label ++ found

/-- A fault of the look-up comes after the remark on the declared type. -/
lemma makes_requirements (table : RequirementTable) (d : Document) (label : Value) :
    (Checking.requirements table d label).Makes (requirements table d label) := by
  unfold Checking.requirements requirements
  have hlookup := Checking.records_ofExcept (table.select d label)
  cases hselect : table.select d label with
  | error fault =>
    rw [hselect] at hlookup
    exact ⟨_, (records_mismatch d label).seq (hlookup.bind_error _)⟩
  | ok entry =>
    rw [hselect] at hlookup
    refine (records_mismatch d label).seq (hlookup.bind ?_)
    cases entry with
    | none => exact Checking.records_pure ()
    | some r => exact (records_missingRequired d r).seq (records_missingRecommended d r)

/-! ## Properties with a meaning of their own -/

/-- Error for a date that is supplied and has not the form of one. -/
def date (d : Document) (name : Text) : List Finding :=
  let v := d.get name
  when (v.isPresent && !v.hasFormat .date)
    (.errorAt name ("Invalid " ++ name ++ " format") dateSuggestion)

lemma records_date (d : Document) (name : Text) :
    (Checking.date d name).Records (date d name) (.ok ()) := Checking.records_recordIf _ _

/-- Remarks on an article. -/
def article (t : Thresholds) (d : Document) : List Finding :=
  when (isLongerThan d "headline" t.headlineMaxLength)
      (.warningAt "headline" "Headline is too long"
        ("Keep headlines under " ++ Text.ofInt t.headlineMaxLength ++
          " characters for better SEO")) ++
    when (d.someText? "author").isSome
      (.warningAt "author" "Author should be an object with name property"
        "Use \x7b\"@type\": \"Person\", \"name\": \"Author Name\"\x7d format") ++
    date d "datePublished" ++ date d "dateModified"

lemma records_article (t : Thresholds) (d : Document) :
    (Checking.article t d).Records (article t d) (.ok ()) := by
  unfold Checking.article article
  simp only [List.append_assoc]
  exact (Checking.records_recordIf _ _).seq ((Checking.records_recordIf _ _).seq
    ((records_date d "datePublished").seq (records_date d "dateModified")))

/-- Error for a property that holds a text and no web address. -/
def linkText (d : Document) (name : Text) (message suggestion : Text) : List Finding :=
  when ((d.someText? name).any fun t => !Format.url.accepts t)
    (.errorAt name message suggestion)

lemma records_linkText (d : Document) (name message suggestion : Text) :
    (Checking.linkText d name message suggestion).Records (linkText d name message suggestion)
      (.ok ()) := Checking.records_recordIf _ _

/-- Remarks on a product. -/
def product (d : Document) : List Finding :=
  let offers := d.get "offers"
  when (offers.isPresent && !offers.has "price")
      (.warningAt "offers.price" "Product offers should include price"
        "Add \"price\" property to offers for better rich snippets") ++
    linkText d "image" "Invalid image URL format" "Use a valid HTTP/HTTPS URL for the image"

lemma records_product (d : Document) : (Checking.product d).Records (product d) (.ok ()) :=
  (Checking.records_recordIf _ _).seq (records_linkText _ _ _ _)

/-- Remarks on an organization. -/
def organization (d : Document) : List Finding :=
  let telephone := d.lookup "contactPoint.telephone"
  linkText d "logo" "Invalid logo URL format" "Use a valid HTTP/HTTPS URL for the logo" ++
    when (telephone.isPresent && !telephone.hasFormat .phone)
      (.warningAt "contactPoint.telephone" "Invalid phone number format"
        "Use international format: +1234567890")

lemma records_organization (d : Document) :
    (Checking.organization d).Records (organization d) (.ok ()) :=
  (records_linkText _ _ _ _).seq (Checking.records_recordIf _ _)

/-- Remarks on an event. -/
def event (d : Document) : List Finding := date d "startDate" ++ date d "endDate"

lemma records_event (d : Document) : (Checking.event d).Records (event d) (.ok ()) :=
  (records_date _ _).seq (records_date _ _)

/-- Error for an element that lacks a property; elements are counted from one in messages. -/
def itemLacks (list noun property suggestion : Text) (i : Nat) (item : Value) : List Finding :=
  when (!item.has property)
    (.errorAt (itemPath list i property)
      (noun ++ " " ++ Text.ofNat (i + 1) ++ " missing " ++ property) suggestion)

lemma records_itemLacks (list noun property suggestion : Text) (i : ℕ) (item : Value) :
    (Checking.itemLacks list noun property suggestion i item).Records
      (itemLacks list noun property suggestion i item) (.ok ()) := Checking.records_recordIf _ _

/-- Remarks on a breadcrumb list. -/
def breadcrumbList (d : Document) : List Finding :=
  eachItemOf (d.get "itemListElement")
    (itemLacks "itemListElement" "Breadcrumb item" "name"
      "Add \"name\" property to each breadcrumb item")

lemma records_breadcrumbList (d : Document) :
    (Checking.breadcrumbList d).Records (breadcrumbList d) (.ok ()) :=
  records_eachItemOf (records_itemLacks _ _ _ _) _

/-- Remarks on one question of a page of questions. -/
def faqItem (i : Nat) (item : Value) : List Finding :=
  itemLacks "mainEntity" "FAQ" "question" "Add \"question\" property to each FAQ item" i item ++
    itemLacks "mainEntity" "FAQ" "answer" "Add \"answer\" property to each FAQ item" i item

lemma records_faqItem (i : ℕ) (item : Value) :
    (Checking.faqItem i item).Records (faqItem i item) (.ok ()) :=
  (records_itemLacks _ _ _ _ _ _).seq (records_itemLacks _ _ _ _ _ _)

/-- Remarks on a page of questions. -/
def faqPage (d : Document) : List Finding := eachItemOf (d.get "mainEntity") faqItem

lemma records_faqPage (d : Document) : (Checking.faqPage d).Records (faqPage d) (.ok ()) :=
  records_eachItemOf records_faqItem _

/-- Remarks on an instruction. -/
def howTo (d : Document) : List Finding :=
  eachItemOf (d.get "step")
    (itemLacks "step" "HowTo step" "name" "Add \"name\" property to each step")

lemma records_howTo (d : Document) : (Checking.howTo d).Records (howTo d) (.ok ()) :=
  records_eachItemOf (records_itemLacks _ _ _ _) _

/-- Remarks on a review. -/
def review (d : Document) : List Finding :=
  let rating := d.get "reviewRating"
  when (rating.isPresent && !(rating.has "ratingValue" && rating.has "bestRating"))
    (.errorAt "reviewRating" "Review rating missing required properties"
      "Add \"ratingValue\" and \"bestRating\" to reviewRating")

lemma records_review (d : Document) : (Checking.review d).Records (review d) (.ok ()) :=
  Checking.records_recordIf _ _

/-- Remarks on a local business. -/
def localBusiness (d : Document) : List Finding :=
  let address := d.get "address"
  when (address.isPresent && !(address.has "streetAddress" && address.has "addressLocality"))
    (.warningAt "address" "Address missing recommended properties"
      "Add \"streetAddress\" and \"addressLocality\" to address")

lemma records_localBusiness (d : Document) :
    (Checking.localBusiness d).Records (localBusiness d) (.ok ()) :=
  Checking.records_recordIf _ _

/-- Remarks on the properties that have a meaning for the type a label spells. -/
def typeSpecific (t : Thresholds) (d : Document) (label : Value) : List Finding :=
  match KnownType.ofLabel? label with
  | some .article => article t d
  | some .product => product d
  | some .organization => organization d
  | some .event => event d
  | some .breadcrumbList => breadcrumbList d
  | some .faqPage => faqPage d
  | some .howTo => howTo d
  | some .review => review d
  | some .localBusiness => localBusiness d
  | _ => []

lemma records_typeSpecific (t : Thresholds) (d : Document) (label : Value) :
    (Checking.typeSpecific t d label).Records (typeSpecific t d label) (.ok ()) := by
  unfold Checking.typeSpecific typeSpecific
  cases KnownType.ofLabel? label with
  | none => exact Checking.records_pure ()
  | some known =>
    cases known with
    | article => exact records_article t d
    | product => exact records_product d
    | organization => exact records_organization d
    | event => exact records_event d
    | breadcrumbList => exact records_breadcrumbList d
    | faqPage => exact records_faqPage d
    | howTo => exact records_howTo d
    | review => exact records_review d
    | localBusiness => exact records_localBusiness d
    | person | webSite => exact Checking.records_pure ()

/-! ## Formats of common properties -/

/-- Errors for texts that are no web addresses. -/
def links (d : Document) : List Finding :=
  linkProperties.flatMap fun p =>
    when ((d.someText? p).any fun t => !Format.url.accepts t)
      (.errorAt p ("Invalid URL format for " ++ p) "Use a valid HTTP/HTTPS URL")

lemma records_links (d : Document) : (Checking.links d).Records (links d) (.ok ()) :=
  Checking.records_forM fun _ _ => Checking.records_recordIf _ _

/-- Error for a mail address that is none. -/
def email (d : Document) : List Finding :=
  when (breaks (d.get "email") .email)
    (.errorAt "email" "Invalid email format" "Use a valid email address format")

lemma records_email (d : Document) : (Checking.email d).Records (email d) (.ok ()) :=
  Checking.records_recordIf _ _

/-- Warnings for texts that name no image file. -/
def images (d : Document) : List Finding :=
  imageProperties.flatMap fun p =>
    when ((d.someText? p).any fun t => !Format.imageUrl.accepts t)
      (.warningAt p ("Image URL may not be a valid image format for " ++ p)
        "Use JPG, PNG, GIF, WebP, or SVG image formats")

lemma records_images (d : Document) : (Checking.images d).Records (images d) (.ok ()) :=
  Checking.records_forM fun _ _ => Checking.records_recordIf _ _

/-- Remarks on one offer of a list; only objects are offers. -/
def offer (i : Nat) (item : Value) : List Finding :=
  let place : Text := "offers[" ++ Text.ofNat i ++ "]"
  when (item.isObject && breaks (item.get "price") .price)
      (.errorAt (itemPath "offers" i "price") ("Invalid price format in " ++ place)
        "Use numeric format like 19.99") ++
    when (item.isObject && breaks (item.get "priceCurrency") .currency)
      (.errorAt (itemPath "offers" i "priceCurrency") ("Invalid currency code in " ++ place)
        "Use 3-letter ISO 4217 currency code like USD, EUR, GBP") ++
    when (item.isObject && isOddAvailability (item.get "availability"))
      (.warningAt (itemPath "offers" i "availability")
        ("Non-standard availability value in " ++ place)
        "Use standard Schema.org availability values")

lemma records_offer (i : ℕ) (item : Value) :
    (Checking.offer i item).Records (offer i item) (.ok ()) := by
  unfold Checking.offer offer
  simp only [List.append_assoc]
  exact (Checking.records_recordIf _ _).seq ((Checking.records_recordIf _ _).seq
    (Checking.records_recordIf _ _))

/-- Remarks on a list of offers. -/
def offers (d : Document) : List Finding := eachItemOf (d.get "offers") offer

lemma records_offers (d : Document) : (Checking.offers d).Records (offers d) (.ok ()) :=
  records_eachItemOf records_offer _

/-- Remarks on an aggregate rating. -/
def rating (t : Thresholds) (d : Document) : Except ValidationFault (List Finding) :=
  match d.get "aggregateRating" with
  | .object ms => do
    let r := Value.object ms
    let x ← ratingNumber (r.get "ratingValue")
    return when (isOddRating t (r.get "ratingValue") x)
        (.warningAt "aggregateRating.ratingValue" "Rating value outside typical 1-5 range"
          "Use values between 1 and 5 for better compatibility") ++
      when (isOddBest t (r.get "bestRating"))
        (.warningAt "aggregateRating.bestRating" "Best rating is not 5"
          "Use 5 as the best rating for standard 5-star systems")
  | _ => .ok []

lemma makes_rating (t : Thresholds) (d : Document) :
    (Checking.rating t d).Makes (rating t d) := by
  unfold Checking.rating rating
  cases d.get "aggregateRating" with
  | object ms =>
    dsimp only
    have hnumber := Checking.records_ofExcept (ratingNumber ((Value.object ms).get "ratingValue"))
    cases h : ratingNumber ((Value.object ms).get "ratingValue") with
    | error fault =>
      rw [h] at hnumber
      exact ⟨_, hnumber.bind_error _⟩
    | ok x =>
      rw [h] at hnumber
      refine hnumber.bind ?_
      exact (Checking.records_recordIf _ _).seq (Checking.records_recordIf _ _)
  | _ => exact Checking.records_pure ()

/-- Warning for a postal code that has not the form of one. -/
def postalCode (d : Document) : List Finding :=
  when (breaks (d.lookup "address.postalCode") .postalCode)
    (.warningAt "address.postalCode" "Postal code format may be invalid"
      "Check postal code format for the specific country")

lemma records_postalCode (d : Document) :
    (Checking.postalCode d).Records (postalCode d) (.ok ()) := Checking.records_recordIf _ _

/-- Warning for a vocabulary that is not the expected one. -/
def contextFormat (d : Document) : List Finding :=
  when (breaks (d.get "@context") .schemaContext)
    (.warningAt "@context" "Non-standard @context value"
      "Use \"https://schema.org\" for better compatibility")

lemma records_contextFormat (d : Document) :
    (Checking.contextFormat d).Records (contextFormat d) (.ok ()) := Checking.records_recordIf _ _

/-- Remarks on the formats of common properties. -/
def datatypes (t : Thresholds) (d : Document) : Except ValidationFault (List Finding) := do
  let r ← rating t d
  return links d ++ email d ++ images d ++ offers d ++ r ++ postalCode d ++ contextFormat d

/-- A fault of the rating comes after what stands in front of it. -/
lemma makes_datatypes (t : Thresholds) (d : Document) :
    (Checking.datatypes t d).Makes (datatypes t d) := by
  have hbehind := (records_postalCode d).seq (records_contextFormat d)
  have h := ((((makes_rating t d).before hbehind).after (records_offers d)).after
    (records_images d)).after (records_email d) |>.after (records_links d)
  unfold datatypes
  cases hrating : rating t d with
  | error fault =>
    rw [hrating] at h
    exact h
  | ok row =>
    rw [hrating] at h
    simp only [bind, Except.bind, pure, Except.pure, List.append_assoc]
    exact h

/-! ## Quality of the content -/

/-- Warnings for texts with nothing but blanks in them. -/
def emptyValues (d : Document) : List Finding :=
  d.strings.flatMap fun (key, t) =>
    when t.strip.isEmpty
      (.warningAt key ("Empty value for property: " ++ key)
        "Provide meaningful content for better SEO")

lemma records_emptyValues (d : Document) :
    (Checking.emptyValues d).Records (emptyValues d) (.ok ()) :=
  Checking.records_forM fun _ _ => Checking.records_recordIf _ _

/-- Warning for a description that is too short or too long. -/
def descriptionLength (t : Thresholds) (d : Document) : List Finding :=
  match d.someText? "description" with
  | none => []
  | some s =>
    if (s.length : Int) < t.descriptionMinLength then
      [.warningAt "description" "Description is too short"
        ("Write descriptions with at least " ++ Text.ofInt t.descriptionMinLength ++
          " characters for better SEO")]
    else
      when (t.descriptionMaxLength < (s.length : Int))
        (.warningAt "description" "Description is too long"
          ("Keep descriptions under " ++ Text.ofInt t.descriptionMaxLength ++
            " characters for better display"))

lemma records_descriptionLength (t : Thresholds) (d : Document) :
    (Checking.descriptionLength t d).Records (descriptionLength t d) (.ok ()) := by
  unfold Checking.descriptionLength descriptionLength
  cases d.someText? "description" with
  | none => exact Checking.records_pure ()
  | some s =>
    dsimp only
    by_cases hshort : (s.length : Int) < t.descriptionMinLength
    · rw [if_pos hshort, if_pos hshort]
      exact Checking.records_record _
    · rw [if_neg hshort, if_neg hshort]
      exact Checking.records_recordIf _ _

/-- Warning for a name that is too long. -/
def nameLength (t : Thresholds) (d : Document) : List Finding :=
  when (isLongerThan d "name" t.nameMaxLength)
    (.warningAt "name" "Name is very long"
      ("Keep names under " ++ Text.ofInt t.nameMaxLength ++ " characters for better display"))

lemma records_nameLength (t : Thresholds) (d : Document) :
    (Checking.nameLength t d).Records (nameLength t d) (.ok ()) :=
  Checking.records_recordIf _ _

/-- Warning for the headline of a declared article that is too long for search results. -/
def headlineLength (t : Thresholds) (d : Document) (label : Value) : List Finding :=
  when (label.isText KnownType.article.name && isLongerThan d "headline" t.headlineMaxLength)
    (.warningAt "headline" "Headline is too long for optimal SEO"
      ("Keep headlines under " ++ Text.ofInt t.headlineMaxLength ++
        " characters for better search display"))

lemma records_headlineLength (t : Thresholds) (d : Document) (label : Value) :
    (Checking.headlineLength t d label).Records (headlineLength t d label) (.ok ()) :=
  Checking.records_recordIf _ _

/-- Note about a name that repeats the headline. -/
def duplicateName (d : Document) : List Finding :=
  when ((d.someText? "name").any fun t => d.string? "headline" = some t)
    (.note "Name and headline are identical"
      "Consider using different values for name and headline")

lemma records_duplicateName (d : Document) :
    (Checking.duplicateName d).Records (duplicateName d) (.ok ()) :=
  Checking.records_recordIf _ _

/-- Warnings for placeholders. -/
def placeholders (d : Document) : List Finding :=
  d.strings.flatMap fun (key, t) =>
    when (hasPlaceholder t)
      (.warningAt key ("Generic placeholder content detected in " ++ key)
        "Replace placeholder content with actual meaningful content")

lemma records_placeholders (d : Document) :
    (Checking.placeholders d).Records (placeholders d) (.ok ()) :=
  Checking.records_forM fun _ _ => Checking.records_recordIf _ _

/-- Warning for a description that is very short. -/
def veryShortDescription (t : Thresholds) (d : Document) : List Finding :=
  when ((d.someText? "description").any fun s =>
      (s.length : Int) < t.descriptionVeryShortLength)
    (.warningAt "description" "Description may be too short"
      "Provide more detailed description for better SEO")

lemma records_veryShortDescription (t : Thresholds) (d : Document) :
    (Checking.veryShortDescription t d).Records (veryShortDescription t d) (.ok ()) :=
  Checking.records_recordIf _ _

/-- Warning for a description that repeats a word too often. -/
def keywordStuffing (t : Thresholds) (d : Document) : List Finding :=
  when ((d.someText? "description").any (isStuffed t))
    (.warningAt "description" "Potential keyword stuffing detected"
      "Avoid repeating the same words too frequently in descriptions")

lemma records_keywordStuffing (t : Thresholds) (d : Document) :
    (Checking.keywordStuffing t d).Records (keywordStuffing t d) (.ok ()) :=
  Checking.records_recordIf _ _

/-- Remarks on the content of a document that is declared with a label. -/
def content (t : Thresholds) (d : Document) (label : Value) : List Finding :=
  emptyValues d ++ descriptionLength t d ++ nameLength t d ++ headlineLength t d label ++
    duplicateName d ++ placeholders d ++ veryShortDescription t d ++ keywordStuffing t d

lemma records_content (t : Thresholds) (d : Document) (label : Value) :
    (Checking.content t d label).Records (content t d label) (.ok ()) := by
  unfold Checking.content content
  simp only [List.append_assoc]
  exact (records_emptyValues d).seq ((records_descriptionLength t d).seq
    ((records_nameLength t d).seq ((records_headlineLength t d label).seq
      ((records_duplicateName d).seq ((records_placeholders d).seq
        ((records_veryShortDescription t d).seq (records_keywordStuffing t d)))))))

end Check

end StructuredData
