import Mathlib.Data.List.Basic
import Mathlib.Tactic.Common
import StructuredData.Proofs.Check.Rows

/-!
# The names that checks look up

Apart from the two that go through all texts of a document, checks see a document only through the
values of some names.  Documents that agree on these (`Document.AgreeOn`) get the same findings from
them, one lemma for each group of checks.  `Check.readNames` are the names that some check looks up
whatever the requirements are.
-/

namespace StructuredData

namespace Document

/-- Documents that have the same values under each of the names. -/
def AgreeOn (names : List Text) (d d' : Document) : Prop := ∀ name ∈ names, d.get name = d'.get name

namespace AgreeOn

variable {names names' : List Text} {name path : Text} {d d' : Document}

lemma mono (h : d.AgreeOn names d') (hsub : names' ⊆ names) : d.AgreeOn names' d' :=
  fun name hname => h name (hsub hname)

lemma get_eq (h : d.AgreeOn names d') (hname : name ∈ names) : d.get name = d'.get name :=
  h name hname

lemma has_eq (h : d.AgreeOn names d') (hname : name ∈ names) : d.has name = d'.has name :=
  congrArg Value.isPresent (h name hname)

lemma string?_eq (h : d.AgreeOn names d') (hname : name ∈ names) :
    d.string? name = d'.string? name :=
  congrArg Value.text? (h name hname)

lemma someText?_eq (h : d.AgreeOn names d') (hname : name ∈ names) :
    d.someText? name = d'.someText? name := by
  rw [someText?, someText?, h.string?_eq hname]

/-- A dotted path reads the document only under its first name. -/
lemma lookup_eq (h : d.AgreeOn names d') (hname : name ∈ names) {rest : List Text}
    (hpath : path.splitOn '.' = name :: rest) : d.lookup path = d'.lookup path := by
  unfold lookup
  rw [hpath, List.foldl_cons, List.foldl_cons]
  exact congrArg (rest.foldl Value.get) (h name hname)

lemma types_eq (h : d.AgreeOn names d') (htype : ("@type" : Text) ∈ names) :
    d.types = d'.types := congrArg typeNames (h "@type" htype)

lemma primaryType_eq (h : d.AgreeOn names d') (htype : ("@type" : Text) ∈ names) :
    d.primaryType = d'.primaryType := congrArg List.head? (h.types_eq htype)

end AgreeOn

end Document

namespace Check

/-- The names that the keyword check looks up. -/
def keywordNames : List Text := ["@context", "@type", "@id"]

/-- The names that have a meaning of their own for some type. -/
def typeSpecificNames : List Text :=
  ["headline", "author", "datePublished", "dateModified", "offers", "image", "logo",
    "contactPoint", "startDate", "endDate", "itemListElement", "mainEntity", "step",
    "reviewRating", "address"]

/-- The names whose values must have their formats. -/
def formatNames : List Text :=
  linkProperties ++ imageProperties ++
    (["email", "offers", "aggregateRating", "address", "@context"] : List Text)

/-- The names whose texts are judged by their content. -/
def contentNames : List Text := ["description", "name", "headline"]

/-- The names that some check looks up, whatever the requirements are. -/
def readNames : List Text := keywordNames ++ typeSpecificNames ++ formatNames ++ contentNames

lemma notMem_readNames_iff {name : Text} :
    name ∉ readNames ↔ name ∉ keywordNames ∧ name ∉ typeSpecificNames ∧ name ∉ formatNames ∧
      name ∉ contentNames := by
  simp only [readNames, List.mem_append, not_or, and_assoc]

variable {d d' : Document} {t : Thresholds}

/-! ## Keywords and requirements -/

lemma keywords_eq_of_agreeOn (h : d.AgreeOn keywordNames d') : keywords d = keywords d' := by
  simp (disch := decide) only [keywords, contextKeyword, h.has_eq, h.get_eq]

lemma mismatch_eq_of_agreeOn (h : d.AgreeOn keywordNames d') (label : Value) :
    mismatch d label = mismatch d' label := by
  simp (disch := decide) only [mismatch, isDeclaredType, h.types_eq]

lemma select_eq_of_agreeOn (h : d.AgreeOn keywordNames d') (table : RequirementTable)
    (label : Value) : table.select d label = table.select d' label := by
  simp (disch := decide) only [RequirementTable.select, h.primaryType_eq]

lemma missingRequired_eq_of_agreeOn {r : Requirement} (h : d.AgreeOn r.required d') :
    missingRequired d r = missingRequired d' r :=
  List.flatMap_congr fun p hp => by rw [h.has_eq hp]

lemma missingRecommended_eq_of_agreeOn {r : Requirement} (h : d.AgreeOn r.recommended d') :
    missingRecommended d r = missingRecommended d' r :=
  List.flatMap_congr fun p hp => by rw [h.has_eq hp]

/-- Of the requirements, only the entry that is selected is looked up. -/
lemma requirements_eq_of_agreeOn (h : d.AgreeOn keywordNames d') {table : RequirementTable}
    {label : Value} (hentry : ∀ r, table.select d label = .ok (some r) →
      d.AgreeOn (r.required ++ r.recommended) d') :
    requirements table d label = requirements table d' label := by
  unfold requirements
  rw [← select_eq_of_agreeOn h, mismatch_eq_of_agreeOn h]
  cases hselect : table.select d label with
  | error fault => rfl
  | ok entry =>
    cases entry with
    | none => rfl
    | some r =>
      have hagree := hentry r hselect
      have hrequired := hagree.mono (List.subset_append_left r.required r.recommended)
      have hrecommended := hagree.mono (List.subset_append_right r.required r.recommended)
      show Except.ok (_ ++ (missingRequired d r ++ missingRecommended d r)) =
        Except.ok (_ ++ (missingRequired d' r ++ missingRecommended d' r))
      rw [missingRequired_eq_of_agreeOn hrequired, missingRecommended_eq_of_agreeOn hrecommended]

/-! ## Properties with a meaning of their own -/

lemma typeSpecific_eq_of_agreeOn (h : d.AgreeOn typeSpecificNames d') (label : Value) :
    typeSpecific t d label = typeSpecific t d' label := by
  have hname : ("contactPoint" : Text) ∈ typeSpecificNames := by decide
  have htelephone : d.lookup "contactPoint.telephone" = d'.lookup "contactPoint.telephone" :=
    h.lookup_eq hname rfl
  simp (disch := decide) only [typeSpecific, article, product, organization, event,
    breadcrumbList, faqPage, howTo, review, localBusiness, date, linkText, isLongerThan, htelephone,
    h.someText?_eq, h.get_eq]

/-! ## Formats -/

lemma links_eq_of_agreeOn (h : d.AgreeOn formatNames d') : links d = links d' := by
  refine List.flatMap_congr fun p hp => ?_
  rw [h.someText?_eq (List.mem_append_left _ (List.mem_append_left _ hp))]

lemma images_eq_of_agreeOn (h : d.AgreeOn formatNames d') : images d = images d' := by
  refine List.flatMap_congr fun p hp => ?_
  rw [h.someText?_eq (List.mem_append_left _ (List.mem_append_right _ hp))]

lemma datatypes_eq_of_agreeOn (h : d.AgreeOn formatNames d') :
    datatypes t d = datatypes t d' := by
  have hname : ("address" : Text) ∈ formatNames := by decide
  have hpostalCode : d.lookup "address.postalCode" = d'.lookup "address.postalCode" :=
    h.lookup_eq hname rfl
  simp (disch := decide) only [datatypes, rating, email, offers, postalCode, contextFormat,
    links_eq_of_agreeOn h, images_eq_of_agreeOn h, hpostalCode, h.get_eq]

/-! ## Content -/

/-- The remarks on the lengths of texts of certain names, and on a name that repeats the
headline. -/
def lengthRemarks (t : Thresholds) (d : Document) (label : Value) : List Finding :=
  descriptionLength t d ++ nameLength t d ++ headlineLength t d label ++ duplicateName d

/-- The remarks on the description that come last. -/
def closingRemarks (t : Thresholds) (d : Document) : List Finding :=
  veryShortDescription t d ++ keywordStuffing t d

/-- The remarks on all texts of a document stand before and between those on texts of certain
names. -/
lemma content_eq (t : Thresholds) (d : Document) (label : Value) :
    content t d label =
      emptyValues d ++ lengthRemarks t d label ++ placeholders d ++ closingRemarks t d := by
  simp only [content, lengthRemarks, closingRemarks, List.append_assoc]

lemma lengthRemarks_eq_of_agreeOn (h : d.AgreeOn contentNames d') (label : Value) :
    lengthRemarks t d label = lengthRemarks t d' label := by
  simp (disch := decide) only [lengthRemarks, descriptionLength, nameLength, headlineLength,
    duplicateName, isLongerThan, h.someText?_eq, h.string?_eq]

lemma closingRemarks_eq_of_agreeOn (h : d.AgreeOn contentNames d') :
    closingRemarks t d = closingRemarks t d' := by
  simp (disch := decide) only [closingRemarks, veryShortDescription, keywordStuffing,
    h.someText?_eq]

end Check

end StructuredData
