import Mathlib.Data.List.Permutation
import StructuredData.Proofs.Json.Plain
import StructuredData.Proofs.Json.Reordering
import StructuredData.Proofs.Validator.Comparison
import StructuredData.Verdict

/-!
# The order of members is no matter

Two documents that differ only in the order of their objects' members get the same errors, the same
notes and the same verdict, and the same warnings up to their order (`validate_reordered`).  All
checks but two look members up by name, so that they give the very same row; the two that go through
all texts of a document warn about each of them in the order of its members.
-/

namespace StructuredData

/-- The same warnings, in some order. -/
def WarningComparison.reordering : WarningComparison :=
  ⟨List.Perm, List.Perm.refl, List.Perm.append⟩

namespace Check

variable {d d' : Document} {v v' : Value} {t : Thresholds}

/-! ## Checks that cannot see the order -/

lemma eachItem_congr {R : Value → Value → Prop} {check : ℕ → Value → List Finding}
    (hcheck : ∀ i item item', R item item' → check i item = check i item')
    {items items' : List Value} (h : List.Forall₂ R items items') :
    eachItem items check = eachItem items' check := by
  unfold eachItem
  generalize 0 = start
  induction h generalizing start with
  | nil => rfl
  | cons hitem _ ih =>
    rw [List.zipIdx_cons, List.zipIdx_cons, List.flatMap_cons, List.flatMap_cons, ih,
      hcheck _ _ _ hitem]

lemma eachItemOf_congr {check : ℕ → Value → List Finding} (h : v.SameUpToOrder v')
    (hcheck : ∀ i item item', item.SameUpToOrder item' → check i item = check i item') :
    eachItemOf v check = eachItemOf v' check := by
  obtain ⟨hreordered, hdistinct⟩ := h
  cases hreordered with
  | refl => rfl
  | object => rfl
  | array hitems =>
    exact eachItem_congr hcheck (Value.SameUpToOrder.items ⟨.array hitems, hdistinct⟩)

lemma keywords_congr (h : d.SameUpToOrder d') : keywords d = keywords d' := by
  simp only [keywords, contextKeyword, h.has_eq, (h.get _).reordered.isText_eq]

lemma mismatch_congr (h : d.SameUpToOrder d') (label : Value) :
    mismatch d label = mismatch d' label := by
  simp only [mismatch, isDeclaredType, h.types_eq]

lemma requirements_congr (h : d.SameUpToOrder d') (table : RequirementTable) (label : Value) :
    requirements table d label = requirements table d' label := by
  have hselect : table.select d label = table.select d' label := by
    simp only [RequirementTable.select, h.primaryType_eq]
  have hrequired : missingRequired d = missingRequired d' := by
    funext r
    simp only [missingRequired, h.has_eq]
  have hrecommended : missingRecommended d = missingRecommended d' := by
    funext r
    simp only [missingRecommended, h.has_eq]
  unfold requirements
  rw [hselect, hrequired, hrecommended, mismatch_congr h]

lemma date_congr (h : d.SameUpToOrder d') (name : Text) : date d name = date d' name := by
  simp only [date, (h.get name).reordered.isPresent_eq, (h.get name).reordered.hasFormat_eq]

lemma article_congr (h : d.SameUpToOrder d') : article t d = article t d' := by
  simp only [article, isLongerThan, h.someText?_eq, date_congr h]

lemma linkText_congr (h : d.SameUpToOrder d') (name message suggestion : Text) :
    linkText d name message suggestion = linkText d' name message suggestion := by
  simp only [linkText, h.someText?_eq]

lemma product_congr (h : d.SameUpToOrder d') : product d = product d' := by
  simp only [product, linkText_congr h, (h.get _).reordered.isPresent_eq, (h.get _).has_eq]

lemma organization_congr (h : d.SameUpToOrder d') : organization d = organization d' := by
  simp only [organization, linkText_congr h, (h.lookup _).reordered.isPresent_eq,
    (h.lookup _).reordered.hasFormat_eq]

lemma itemLacks_congr (list noun property suggestion : Text) (i : ℕ) (h : v.SameUpToOrder v') :
    itemLacks list noun property suggestion i v = itemLacks list noun property suggestion i v' := by
  simp only [itemLacks, h.has_eq]

lemma listed_congr (h : d.SameUpToOrder d') (list noun property suggestion : Text) :
    eachItemOf (d.get list) (itemLacks list noun property suggestion) =
      eachItemOf (d'.get list) (itemLacks list noun property suggestion) :=
  eachItemOf_congr (h.get list) fun i _ _ => itemLacks_congr list noun property suggestion i

lemma faqPage_congr (h : d.SameUpToOrder d') : faqPage d = faqPage d' := by
  refine eachItemOf_congr (h.get _) fun i item item' hitem => ?_
  unfold faqItem
  rw [itemLacks_congr _ _ _ _ _ hitem, itemLacks_congr _ _ _ _ _ hitem]

lemma review_congr (h : d.SameUpToOrder d') : review d = review d' := by
  simp only [review, (h.get _).reordered.isPresent_eq, (h.get _).has_eq]

lemma localBusiness_congr (h : d.SameUpToOrder d') : localBusiness d = localBusiness d' := by
  simp only [localBusiness, (h.get _).reordered.isPresent_eq, (h.get _).has_eq]

lemma typeSpecific_congr (h : d.SameUpToOrder d') (label : Value) :
    typeSpecific t d label = typeSpecific t d' label := by
  simp only [typeSpecific, article_congr h, product_congr h, organization_congr h, event,
    date_congr h, breadcrumbList, howTo, listed_congr h, faqPage_congr h, review_congr h,
    localBusiness_congr h]

lemma breaks_congr (h : v.SameUpToOrder v') (f : Format) : breaks v f = breaks v' f := by
  simp only [breaks, h.reordered.isPresent_eq, h.reordered.hasFormat_eq]

lemma offer_congr (i : ℕ) (h : v.SameUpToOrder v') : offer i v = offer i v' := by
  simp only [offer, h.reordered.isObject_eq, breaks_congr (h.get _), isOddAvailability,
    (h.get _).reordered.isPresent_eq, (h.get _).reordered.isText_eq]

lemma ratingNumber_congr (h : v.SameUpToOrder v') : ratingNumber v = ratingNumber v' := by
  obtain ⟨hreordered, -⟩ := h
  cases hreordered <;> rfl

lemma isOddBest_congr (h : v.SameUpToOrder v') : isOddBest t v = isOddBest t v' := by
  obtain ⟨hreordered, -⟩ := h
  cases hreordered <;> rfl

lemma rating_congr (h : d.SameUpToOrder d') : rating t d = rating t d' := by
  have hrating := h.get "aggregateRating"
  unfold rating
  generalize d.get "aggregateRating" = r at hrating ⊢
  generalize d'.get "aggregateRating" = r' at hrating ⊢
  have hreordered := hrating.reordered
  cases hreordered with
  | refl => rfl
  | array => rfl
  | object =>
    simp only [ratingNumber_congr (hrating.get _), isOddRating,
      (hrating.get _).reordered.isPresent_eq, isOddBest_congr (hrating.get _)]

lemma datatypes_congr (h : d.SameUpToOrder d') : datatypes t d = datatypes t d' := by
  have hoffers : offers d = offers d' :=
    eachItemOf_congr (h.get _) fun i _ _ hitem => offer_congr i hitem
  simp only [datatypes, rating_congr h, links, h.someText?_eq, email, breaks_congr (h.get _),
    images, hoffers, postalCode, breaks_congr (h.lookup _), contextFormat]

/-! ## Checks that go through the texts in order -/

/-- Warnings about the texts of a document come in the order of its members. -/
lemma strings_flatMap_agree (h : d.SameUpToOrder d') {check : Text × Text → List Finding}
    (hcheck : ∀ m, OnlyWarns (check m)) :
    RowsAgree .reordering (d.strings.flatMap check) (d'.strings.flatMap check) :=
  .of_onlyWarns (forall_flatMap hcheck) (forall_flatMap hcheck)
    (h.strings_perm.flatMap_right check)

lemma content_reordered (h : d.SameUpToOrder d') (label : Value) :
    RowsAgree .reordering (content t d label) (content t d' label) := by
  refine content_agree (strings_flatMap_agree h fun _ => forall_when _ rfl) ?_ ?_ ?_ ?_
    (strings_flatMap_agree h fun _ => forall_when _ rfl) ?_ ?_
  -- the other checks look texts up by name
  all_goals
    refine .of_eq ?_
    simp only [descriptionLength, nameLength, headlineLength, duplicateName, veryShortDescription,
      keywordStuffing, isLongerThan, h.someText?_eq, h.string?_eq]

end Check

/-! ## Verdicts -/

/-- Everything that sums findings up for a reader is the same. -/
structure Findings.SameVerdict (fs fs' : Findings) : Prop where
  isValid : fs.isValid = fs'.isValid
  score : fs.score = fs'.score
  status : fs.status = fs'.status
  summary : fs.summary = fs'.summary
  band : fs.band = fs'.band

/-- The verdict goes by the numbers of findings. -/
lemma Findings.sameVerdict_of_length {fs fs' : Findings}
    (herrors : fs.errors.length = fs'.errors.length)
    (hwarnings : fs.warnings.length = fs'.warnings.length)
    (hinfo : fs.info.length = fs'.info.length) : fs.SameVerdict fs' := by
  have hvalid : fs.isValid = fs'.isValid := by
    rw [Bool.eq_iff_iff, isValid, isValid, List.isEmpty_iff_length_eq_zero,
      List.isEmpty_iff_length_eq_zero, herrors]
  have hempty : fs.warnings.isEmpty = fs'.warnings.isEmpty := by
    rw [Bool.eq_iff_iff, List.isEmpty_iff_length_eq_zero, List.isEmpty_iff_length_eq_zero,
      hwarnings]
  have hscore : fs.score = fs'.score := by
    simp only [score, herrors, hwarnings, hinfo]
  have hstatus : fs.status = fs'.status := by
    simp only [status, hvalid, hempty]
  refine ⟨hvalid, hscore, hstatus, ?_, ?_⟩
  · simp only [summary, hstatus, herrors, hwarnings]
  · simp only [band, hscore]

/-! ## Validation -/

namespace Validator

variable {v : Validator} {d d' : Document}

lemma remarks_reordered (h : d.SameUpToOrder d') (label : Value) :
    Outcome.Alike (Check.RowsAgree .reordering) (v.remarks d label) (v.remarks d' label) := by
  have hresolved : d.resolvedLabel label = d'.resolvedLabel label := by
    simp only [Document.resolvedLabel, h.primaryType_eq]
  refine remarks_alike (.of_eq (Check.keywords_congr h)) ?_ ?_ ?_ (Check.content_reordered h label)
  · exact .of_eq .refl (Check.requirements_congr h v.table label)
  · rw [hresolved]
    exact .of_eq (Check.typeSpecific_congr h _)
  · exact .of_eq .refl (Check.datatypes_congr h)

/-- Two texts that write the same value up to the order of members are validated alike, whatever
the documents are declared to be and held against: the errors and the notes are the same in the same
order, the warnings are the same in some order, and so the verdicts are the same; or else
validating them fails with the same fault. -/
theorem validate_reordered (v : Validator) (label : Value) {depth : ℕ} {text text' : Text}
    {value value' : Value} (hread : Json.read depth text = .ok value)
    (hread' : Json.read depth text' = .ok value') (h : value.Reordered value') :
    Outcome.Alike (fun fs fs' => fs.errors = fs'.errors ∧ fs.info = fs'.info ∧
        fs.warnings.Perm fs'.warnings ∧ fs.SameVerdict fs')
      (v.validate depth ⟨label, .string text⟩) (v.validate depth ⟨label, .string text'⟩) := by
  have hsame : (Document.ofValue value).SameUpToOrder (Document.ofValue value') :=
    .ofValue ⟨h, Json.namesDistinct_of_read hread⟩
  have hagree := validate_alike (Submission.document?_of_read label hread)
    (Submission.document?_of_read label hread') (remarks_reordered (v := v) hsame label)
  refine hagree.imp fun fs fs' hfs => ⟨hfs.errors, hfs.info, hfs.warnings, ?_⟩
  have herrors : fs.errors.length = fs'.errors.length := by rw [hfs.errors]
  have hinfo : fs.info.length = fs'.info.length := by rw [hfs.info]
  exact Findings.sameVerdict_of_length herrors hfs.warnings.length_eq hinfo

/-- A concert with an empty name, a blank address and a price that is no number. -/
def concert : Text :=
  "\x7b\"@type\": \"Event\", \"name\": \"\", \"url\": \" \", " ++
  "\"offers\": [\x7b\"price\": \"-\", \"priceCurrency\": \"EUR\"\x7d]\x7d"

/-- The same concert with its members, and those of its offer, the other way round. -/
def reversedConcert : Text :=
  "\x7b\"offers\": [\x7b\"priceCurrency\": \"EUR\", \"price\": \"-\"\x7d], " ++
  "\"url\": \" \", \"name\": \"\", \"@type\": \"Event\"\x7d"

/-- The members of the concert's offer. -/
def concertOffer : Members := [("price", .string "-"), ("priceCurrency", .string "EUR")]

/-- The members of the concert, with those of its offer. -/
def concertMembers (offer : Members) : Members :=
  [("@type", .string "Event"), ("name", .string []), ("url", .string " "),
    ("offers", .array [.object offer])]

theorem concert_reversed :
    ∃ value value' fs fs', Json.read 985 concert = .ok value ∧
      Json.read 985 reversedConcert = .ok value' ∧ value.Reordered value' ∧
      (Validator.mk RequirementTable.packaged {}).validate 985
        ⟨.string "Event", .string concert⟩ = .ok fs ∧
      (Validator.mk RequirementTable.packaged {}).validate 985
        ⟨.string "Event", .string reversedConcert⟩ = .ok fs' ∧
      fs.errors = fs'.errors ∧ fs.warnings.Perm fs'.warnings ∧ fs.warnings ≠ fs'.warnings := by
  have hread : Json.read 985 concert = .ok (.object (concertMembers concertOffer)) := by
    cbv
  have hread' : Json.read 985 reversedConcert =
      .ok (.object (concertMembers concertOffer.reverse).reverse) := by
    cbv
  have hreordered : (Value.object (concertMembers concertOffer)).Reordered
      (.object (concertMembers concertOffer.reverse).reverse) := by
    refine .object (List.reverse_perm _).symm ?_
    refine .cons _ (.array (.cons (.object (List.reverse_perm _).symm ?_) .nil)) ?_
    · exact .cons _ (.refl _) (.cons _ (.refl _) .nil)
    · exact .cons _ (.refl _) (.cons _ (.refl _) (.cons _ (.refl _) .nil))
  have halike := validate_reordered (Validator.mk RequirementTable.packaged {}) (.string "Event")
    hread hread' hreordered
  have hdiffer : ((Validator.mk RequirementTable.packaged {}).validate 985
      ⟨.string "Event", .string concert⟩).toOption.map (·.warnings) ≠
      ((Validator.mk RequirementTable.packaged {}).validate 985
        ⟨.string "Event", .string reversedConcert⟩).toOption.map (·.warnings) := by
    decide +kernel
  generalize (Validator.mk RequirementTable.packaged {}).validate 985
    ⟨.string "Event", .string concert⟩ = r at halike hdiffer ⊢
  generalize (Validator.mk RequirementTable.packaged {}).validate 985
    ⟨.string "Event", .string reversedConcert⟩ = r' at halike hdiffer ⊢
  cases halike with
  | error e => exact absurd rfl hdiffer
  | ok h =>
    refine ⟨_, _, _, _, hread, hread', hreordered, rfl, rfl, h.1, h.2.2.1, ?_⟩
    intro hsame
    exact hdiffer (congrArg some hsame)

end Validator

end StructuredData
