import StructuredData.Proofs.Check.Errors
import StructuredData.Proofs.Validator.Conformance
import StructuredData.Proofs.Validator.Totality

/-!
# Validity is conformance

What is found in a document that is handed in as text is valid if and only if the text can be read
and its value conforms (`isValid_iff_conforms`).  The proof goes through the remarks one group at a
time; the groups that hold no errors drop out, and the two that look at images and logos of products
and organizations ask for nothing that the check of all web addresses does not ask for as well.
-/

namespace StructuredData

namespace KnownType

/-- A text spells a known type only by its exact name. -/
lemma ofLabel?_string_eq_some_iff {label : Text} {k : KnownType} :
    ofLabel? (.string label) = some k ↔ label = k.name := by
  constructor
  · intro h
    have hname := List.find?_some h
    simpa [Value.isText, Value.text?] using hname
  · rintro rfl
    exact ofLabel?_name k

end KnownType

namespace Check

variable {t : Thresholds} {v : Value}

/-! ## Errors of each group, read off the value -/

lemma noError_keywords_ofValue :
    NoError (keywords (Document.ofValue v)) ↔ v.Supplies "@context" ∧ v.Supplies "@type" := by
  rw [noError_keywords, Document.has_ofValue, Document.has_ofValue]

lemma noError_missingProperties_ofValue (entry : Option Requirement) :
    NoError (missingProperties (Document.ofValue v) entry) ↔
      ∀ r, entry = some r → ∀ p ∈ r.required, v.Supplies p := by
  rw [noError_missingProperties]
  simp only [Document.has_ofValue]

lemma noError_linkText_ofValue (name message suggestion : Text) :
    NoError (linkText (Document.ofValue v) name message suggestion) ↔
      ∀ u, v.HasMember name (.string u) → u = [] ∨ Format.url.accepts u = true := by
  rw [noError_linkText, Document.get_ofValue]
  refine forall_congr' fun u => ?_
  rw [Value.get_eq_iff (by simp)]

lemma noError_links_ofValue :
    NoError (links (Document.ofValue v)) ↔ ∀ p ∈ linkProperties,
      ∀ u, v.HasMember p (.string u) → u = [] ∨ Format.url.accepts u = true := by
  unfold links
  rw [noError_flatMap]
  exact forall₂_congr fun p _ => noError_linkText_ofValue p _ _

lemma noError_email_ofValue :
    NoError (email (Document.ofValue v)) ↔ v.Fits "email" .email := by
  rw [noError_email, Document.get_ofValue, Value.fits_iff]

/-- An offer that is no object has no price that could be wrong. -/
lemma noError_offer_iff_fits (i : ℕ) (offer : Value) :
    NoError (Check.offer i offer) ↔
      offer.Fits "price" .price ∧ offer.Fits "priceCurrency" .currency := by
  rw [noError_offer, Value.fits_iff, Value.fits_iff]
  cases offer with
  | object ms => simp [Value.isObject]
  | _ => simp [Value.isObject, Value.get, Value.members, Members.get?, Value.isPresent]

lemma noError_offers_ofValue :
    NoError (offers (Document.ofValue v)) ↔
      ∀ offers, v.HasMember "offers" (.array offers) → ∀ offer ∈ offers,
        offer.Fits "price" .price ∧ offer.Fits "priceCurrency" .currency := by
  unfold offers
  rw [noError_eachItemOf noError_offer_iff_fits, Document.get_ofValue]
  refine forall_congr' fun items => ?_
  rw [Value.get_eq_iff (by simp)]

lemma noError_date_ofValue (name : Text) :
    NoError (date (Document.ofValue v) name) ↔ v.Fits name .date := by
  rw [Value.fits_iff, ← Document.get_ofValue]
  simp [date]

lemma noError_itemLacks (list noun property suggestion : Text) (i : ℕ) (item : Value) :
    NoError (itemLacks list noun property suggestion i item) ↔ item.Supplies property := by
  rw [← Value.has_iff_supplies]
  simp [itemLacks]

/-- A list whose elements must all have one property. -/
lemma noError_eachItemOf_itemLacks (list noun property suggestion : Text) :
    NoError (eachItemOf ((Document.ofValue v).get list) (itemLacks list noun property suggestion)) ↔
      v.ListsObjectsWith list [property] := by
  rw [Value.listsObjectsWith_iff, Document.get_ofValue,
    noError_eachItemOf (noError_itemLacks list noun property suggestion)]
  simp only [List.mem_singleton, forall_eq]

lemma noError_faqItem (i : ℕ) (item : Value) :
    NoError (faqItem i item) ↔ item.Supplies "question" ∧ item.Supplies "answer" := by
  unfold faqItem
  rw [noError_append, noError_itemLacks, noError_itemLacks]

lemma noError_faqPage_ofValue :
    NoError (faqPage (Document.ofValue v)) ↔
      v.ListsObjectsWith "mainEntity" ["question", "answer"] := by
  unfold faqPage
  rw [Value.listsObjectsWith_iff, Document.get_ofValue, noError_eachItemOf noError_faqItem]
  simp

lemma noError_review_ofValue :
    NoError (review (Document.ofValue v)) ↔
      ∀ rating, v.HasMember "reviewRating" rating → rating.isPresent = true →
        rating.Supplies "ratingValue" ∧ rating.Supplies "bestRating" := by
  rw [Value.forall_hasMember_iff (by simp [Value.isPresent]), ← Document.get_ofValue,
    ← Value.has_iff_supplies, ← Value.has_iff_supplies]
  simp [review]

/-! ## Errors that depend on the type -/

/-- The conditions of a known type, for a document whose web addresses are in order. -/
lemma noError_typeSpecific_name (hlinks : NoError (links (Document.ofValue v))) (k : KnownType) :
    NoError (typeSpecific t (Document.ofValue v) (.string k.name)) ↔ TypeRules v k := by
  rw [noError_links_ofValue] at hlinks
  unfold typeSpecific
  rw [KnownType.ofLabel?_name]
  cases k with
  | article => simp [article, TypeRules, noError_date_ofValue]
  | event => simp [event, TypeRules, noError_date_ofValue]
  | product =>
    have himage := hlinks "image" (by decide)
    simpa [product, TypeRules, noError_linkText_ofValue] using himage
  | organization =>
    have hlogo := hlinks "logo" (by decide)
    simpa [organization, TypeRules, noError_linkText_ofValue] using hlogo
  | breadcrumbList => exact noError_eachItemOf_itemLacks _ _ _ _
  | howTo => exact noError_eachItemOf_itemLacks _ _ _ _
  | faqPage => exact noError_faqPage_ofValue
  | review => exact noError_review_ofValue
  | localBusiness => simp [localBusiness, TypeRules]
  | person => simp [TypeRules]
  | webSite => simp [TypeRules]

lemma noError_typeSpecific (hlinks : NoError (links (Document.ofValue v))) (label : Text) :
    NoError (typeSpecific t (Document.ofValue v) (.string label)) ↔
      ∀ k : KnownType, label = k.name → TypeRules v k := by
  cases hlabel : KnownType.ofLabel? (.string label) with
  | none =>
    have hunknown : ∀ k : KnownType, label ≠ k.name := by
      intro k hk
      rw [KnownType.ofLabel?_string_eq_some_iff.mpr hk] at hlabel
      cases hlabel
    have hnothing : typeSpecific t (Document.ofValue v) (.string label) = [] := by
      simp [typeSpecific, hlabel]
    simp [hnothing, hunknown]
  | some k =>
    obtain rfl := KnownType.ofLabel?_string_eq_some_iff.mp hlabel
    rw [noError_typeSpecific_name hlinks]
    constructor
    · intro h k' hk'
      rw [KnownType.ofLabel?_string_eq_some_iff.mpr hk'] at hlabel
      cases hlabel
      exact h
    · intro h
      exact h k rfl

end Check

namespace Validator

variable {v : Validator} {label : Text} {row : List Finding}

lemma remarks_string_eq_ok {d : Document} (h : v.remarks d (.string label) = .ok row) :
    ∃ typed, Check.datatypes v.thresholds d = .ok typed ∧
      row = Check.keywords d ++
        (Check.mismatch d (.string label) ++
          Check.missingProperties d (v.table.entryFor d label)) ++
        Check.typeSpecific v.thresholds d (d.resolvedLabel (.string label)) ++ typed ++
        Check.content v.thresholds d (.string label) := by
  obtain ⟨required, hrequired, h⟩ := Outcome.bind_eq_ok.mp h
  rw [Check.requirements_string] at hrequired
  cases hrequired
  obtain ⟨typed, htyped, hrow⟩ := Outcome.bind_eq_ok.mp h
  cases hrow
  exact ⟨typed, htyped, rfl⟩

lemma resolvedLabel_string (d : Document) :
    d.resolvedLabel (.string label) = .string (d.primaryType.getD label) := by
  unfold Document.resolvedLabel
  cases d.primaryType <;> rfl

lemma noError_remarks_iff {value : Value}
    (h : v.remarks (Document.ofValue value) (.string label) = .ok row) :
    Check.NoError row ↔
      Conforms v.table label (Document.ofValue value).primaryType value := by
  obtain ⟨typed, htyped, rfl⟩ := remarks_string_eq_ok h
  simp only [Check.noError_append, Check.noError_mismatch, Check.noError_content, true_and,
    and_true, Check.noError_datatypes htyped, resolvedLabel_string]
  constructor
  · rintro ⟨⟨⟨hkeywords, hrequired⟩, htype⟩, hlinks, hemail, hoffers⟩
    obtain ⟨hcontext, hat⟩ := Check.noError_keywords_ofValue.mp hkeywords
    exact {
      context := hcontext
      type := hat
      required := (Check.noError_missingProperties_ofValue _).mp hrequired
      links := Check.noError_links_ofValue.mp hlinks
      email := Check.noError_email_ofValue.mp hemail
      offers := Check.noError_offers_ofValue.mp hoffers
      ofType := (Check.noError_typeSpecific hlinks _).mp htype }
  · intro h
    have hlinks := Check.noError_links_ofValue.mpr h.links
    refine ⟨⟨⟨?_, ?_⟩, ?_⟩, hlinks, ?_, ?_⟩
    · exact Check.noError_keywords_ofValue.mpr ⟨h.context, h.type⟩
    · exact (Check.noError_missingProperties_ofValue _).mpr h.required
    · exact (Check.noError_typeSpecific hlinks _).mpr h.ofType
    · exact Check.noError_email_ofValue.mpr h.email
    · exact Check.noError_offers_ofValue.mpr h.offers

/-- A document that is handed in as text, and that has an answer, is valid if and only if its text
can be read and what it writes conforms to the table. -/
theorem isValid_iff_conforms {depth : ℕ} {text : Text} {fs : Findings}
    (h : v.validate depth (.ofTexts label text) = .ok fs) :
    fs.isValid = true ↔ ∃ value own, Json.read depth text = .ok value ∧ OwnType value own ∧
      Conforms v.table label own value := by
  cases hread : Json.read depth text with
  | error reason =>
    rw [validate_of_read_eq_error hread] at h
    cases h
    simp [Findings.isValid_ofList, Check.invalidSyntax]
  | ok value =>
    rw [validate_of_read_eq_ok hread] at h
    obtain ⟨row, hrow, hfs⟩ := Outcome.bind_eq_ok.mp h
    cases hfs
    rw [Findings.isValid_ofList, noError_remarks_iff hrow]
    constructor
    · intro hconforms
      exact ⟨value, _, rfl, ownType_primaryType value, hconforms⟩
    · rintro ⟨_, own, hvalue, hown, hconforms⟩
      cases hvalue
      rw [OwnType.unique (ownType_primaryType value) hown]
      exact hconforms

/-- A page of questions whose type stands behind a number and an empty text. -/
def questions : Text :=
  "\x7b\"@context\": \"https://schema.org\", \"@id\": \"/questions\", " ++
  "\"@type\": [7, \"\", \"FAQPage\", \"Article\"], \"name\": \"Questions\", " ++
  "\"description\": [\"What visitors ask\"], " ++
  "\"datePublished\": \"yesterday\", \"offers\": [3, \x7b\"price\": 0\x7d], " ++
  "\"mainEntity\": [\x7b\"question\": \"Is it open?\", \"answer\": [] \x7d]\x7d"

theorem questions_conforms :
    (Validator.mk RequirementTable.packaged {}).validate 985 (.ofTexts "FAQPage" questions) =
        .ok Findings.empty ∧
      ∃ value own, Json.read 985 questions = .ok value ∧ OwnType value own ∧
        Conforms RequirementTable.packaged "FAQPage" own value := by
  have h : (Validator.mk RequirementTable.packaged {}).validate 985
      (.ofTexts "FAQPage" questions) = .ok Findings.empty := by
    decide +kernel
  exact ⟨h, (isValid_iff_conforms h).mp rfl⟩

end Validator

end StructuredData
