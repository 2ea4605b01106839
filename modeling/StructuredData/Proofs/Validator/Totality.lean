import StructuredData.Page.Report
import StructuredData.Proofs.Check.Rating
import StructuredData.Proofs.Check.Requirements
import StructuredData.Proofs.Json.Member
import StructuredData.Proofs.Pool

/-!
# Which documents have an answer

A document that is handed in as text has an answer whatever the text says, with one exception: the
value of an aggregate rating must not be an integer beyond the range of floating-point numbers
(`WritesHugeRating`).  A page has a report if and only if none of its documents is such a text
where it is read, in turn or by a pool of workers.
-/

namespace StructuredData

/-- The text, read up to a depth, writes an object with an aggregate rating whose value is an
integer beyond the range of floating-point numbers. -/
def WritesHugeRating (depth : ℕ) (schema : Text) : Prop :=
  ∃ value rating n, Json.read depth schema = .ok value ∧ value.HasMember "aggregateRating" rating ∧
    rating.HasMember "ratingValue" (.number (.int n)) ∧ Binary64.overflowBound ≤ n.natAbs

/-! ## A single document -/

/-- Seen from the text, a rating overflows when the text writes it as an integer that is too
large. -/
lemma writesHugeRating_iff (depth : ℕ) (schema : Text) :
    WritesHugeRating depth schema ↔
      ∃ value, Json.read depth schema = .ok value ∧ (Document.ofValue value).RatingOverflows := by
  unfold WritesHugeRating Document.RatingOverflows
  constructor
  · rintro ⟨value, rating, n, hread, hrating, hvalue, hle⟩
    obtain ⟨ms, rfl, hms⟩ := hvalue
    refine ⟨value, hread, ms, n, ?_, ?_, hle⟩
    · rw [Document.get_ofValue]
      exact (Value.get_eq_iff (by simp)).mpr hrating
    · exact (Value.get_eq_iff (by simp)).mpr ⟨ms, rfl, hms⟩
  · rintro ⟨value, hread, ms, n, hrating, hvalue, hle⟩
    rw [Document.get_ofValue] at hrating
    refine ⟨value, .object ms, n, hread, ?_, ?_, hle⟩
    · exact (Value.get_eq_iff (by simp)).mp hrating
    · exact (Value.get_eq_iff (by simp)).mp hvalue

namespace Validator

variable {v : Validator} {depth : ℕ} {label schema : Text} {fault : ValidationFault}

lemma remarks_eq_error_iff {d : Document} :
    v.remarks d (.string label) = .error fault ↔ fault = .ratingTooLarge ∧ d.RatingOverflows := by
  have hdatatypes : Check.datatypes v.thresholds d = .error fault ↔ _ :=
    Check.datatypes_eq_error_iff
  unfold remarks
  rw [Check.requirements_string, ← hdatatypes]
  cases Check.datatypes v.thresholds d <;> simp [bind, Except.bind, pure, Except.pure]

lemma validate_of_read_eq_error {reason : Json.Fault}
    (hread : Json.read depth schema = .error reason) :
    v.validate depth (.ofTexts label schema) = .ok (Findings.ofList [Check.invalidSyntax]) := by
  have hdocument : (Submission.ofTexts label schema).document? depth = none := by
    simp [Submission.document?, Submission.parsed?, Submission.ofTexts, Value.text?, Json.read?,
      hread, Except.toOption]
  exact validate_of_unread hdocument

lemma validate_of_read_eq_ok {value : Value} (hread : Json.read depth schema = .ok value) :
    v.validate depth (.ofTexts label schema) =
      (v.remarks (Document.ofValue value) (.string label) >>= fun row =>
        .ok (Findings.ofList row)) := by
  have hdocument : (Submission.ofTexts label schema).document? depth =
      some (Document.ofValue value) := by
    simp [Submission.document?, Submission.parsed?, Submission.ofTexts, Value.text?, Json.read?,
      hread, Except.toOption]
  exact validate_of_document? hdocument

/-- Validating a text fails only with a rating that is too large. -/
lemma validate_eq_error_iff :
    v.validate depth (.ofTexts label schema) = .error fault ↔
      fault = .ratingTooLarge ∧ WritesHugeRating depth schema := by
  rw [writesHugeRating_iff]
  cases hread : Json.read depth schema with
  | error reason =>
    rw [validate_of_read_eq_error hread]
    simp
  | ok value =>
    have hremarks : v.remarks (Document.ofValue value) (.string label) = .error fault ↔ _ :=
      remarks_eq_error_iff
    rw [validate_of_read_eq_ok hread, Outcome.bind_eq_error, hremarks]
    simp

end Validator

/-! ## A page -/

/-- The submissions of a page whose labels and documents are texts. -/
def Submission.page (texts : List (Text × Text)) : List Submission :=
  texts.map fun s => .ofTexts s.1 s.2

namespace Page

/-- Labels that are texts can always be counted. -/
lemma typeCount_page (texts : List (Text × Text)) :
    ∃ count, typeCount (Submission.page texts) = .ok count := by
  have hlabels : ∃ keys, (Submission.page texts).mapM (fun s => s.label.asKey) = .ok keys := by
    refine Outcome.mapM_isOk_iff.mpr fun s hs => ?_
    obtain ⟨t, -, rfl⟩ := List.mem_map.mp hs
    exact ⟨.string t.1, rfl⟩
  obtain ⟨keys, hkeys⟩ := hlabels
  exact ⟨_, Outcome.bind_eq_ok.mpr ⟨keys, hkeys, rfl⟩⟩

lemma remarks_page (t : Thresholds) (depth : ℕ) (texts : List (Text × Text)) :
    ∃ row, remarks t depth (Submission.page texts) = .ok row := by
  obtain ⟨count, hcount⟩ := typeCount_page texts
  exact ⟨_, Outcome.bind_eq_ok.mpr ⟨count, hcount, rfl⟩⟩

end Page

namespace Validator

variable {v : Validator} {depths : Depths} {workers : Option ℤ} {ss : List Submission}
  {fault : ValidationFault}

lemma validateDocument_eq_error_iff {depth : ℕ} {s : Submission} :
    v.validateDocument depth s = .error fault ↔ v.validate depth s = .error fault := by
  unfold validateDocument
  exact Outcome.bind_pure_eq_error

/-- As long as the remarks on the page have an answer, a page fails as the row of its documents
does. -/
lemma validatePage_eq_error_iff {row : List Finding}
    (hrow : Page.remarks v.thresholds depths.page ss = .ok row) :
    v.validatePage depths workers ss = .error fault ↔
      v.validateInTurn (depthAtWork depths workers ss) ss = .error fault := by
  unfold validatePage
  rw [validateMany_eq_inTurn, Outcome.bind_eq_error]
  constructor
  · rintro (h | ⟨documents, -, h⟩)
    · exact h
    · obtain hpage | ⟨_, _, hpure⟩ := Outcome.bind_eq_error.mp h
      · rw [hrow] at hpage
        cases hpage
      · cases hpure
  · exact .inl

lemma validatePage_page_eq_error_iff {texts : List (Text × Text)} :
    v.validatePage depths workers (Submission.page texts) = .error fault ↔
      fault = .ratingTooLarge ∧ ∃ s ∈ texts,
        WritesHugeRating (depthAtWork depths workers (Submission.page texts)) s.2 := by
  obtain ⟨row, hrow⟩ := Page.remarks_page v.thresholds depths.page texts
  have honly : ∀ s ∈ Submission.page texts, ∀ fault,
      v.validateDocument (depthAtWork depths workers (Submission.page texts)) s = .error fault →
        fault = .ratingTooLarge := by
    intro s hs fault hfault
    obtain ⟨t, -, rfl⟩ := List.mem_map.mp hs
    exact (validate_eq_error_iff.mp (validateDocument_eq_error_iff.mp hfault)).1
  rw [validatePage_eq_error_iff hrow]
  unfold validateInTurn
  rw [Outcome.mapM_eq_error_of_only honly]
  simp only [Submission.page, List.mem_map, exists_exists_and_eq_and,
    validateDocument_eq_error_iff, validate_eq_error_iff, true_and]

/-- Every document handed in as text has an answer unless, read where it is validated, it writes a
rating that is too large, and a page has a report unless one of its documents does, however many
workers validate it.  The only failure is that of the rating. -/
theorem answers_iff_no_hugeRating (v : Validator) :
    (∀ (depth : ℕ) (label schema : Text),
      ((∃ fs, v.validate depth (.ofTexts label schema) = .ok fs) ↔
        ¬ WritesHugeRating depth schema) ∧
      (v.validate depth (.ofTexts label schema) = .error .ratingTooLarge ↔
        WritesHugeRating depth schema)) ∧
    ∀ (depths : Depths) (workers : Option ℤ) (texts : List (Text × Text)),
      ((∃ r, v.validatePage depths workers (Submission.page texts) = .ok r) ↔
        ¬ ∃ s ∈ texts,
          WritesHugeRating (depthAtWork depths workers (Submission.page texts)) s.2) ∧
      (v.validatePage depths workers (Submission.page texts) = .error .ratingTooLarge ↔
        ∃ s ∈ texts,
          WritesHugeRating (depthAtWork depths workers (Submission.page texts)) s.2) := by
  refine ⟨fun depth label schema => ⟨?_, ?_⟩, fun depths workers texts => ⟨?_, ?_⟩⟩
  · rw [← not_iff_not, not_not, Outcome.not_isOk_iff]
    simp only [validate_eq_error_iff, exists_eq_left]
  · simp only [validate_eq_error_iff, true_and]
  · rw [← not_iff_not, not_not, Outcome.not_isOk_iff]
    simp only [validatePage_page_eq_error_iff, exists_eq_left]
  · simp only [validatePage_page_eq_error_iff, true_and]

/-- A document whose rating is ten to the power 309. -/
def overlongRating : Text :=
  Text.ofString "\x7b\"aggregateRating\": \x7b\"ratingValue\": 1" ++
    List.replicate 309 (CodePoint.ofChar '0') ++ Text.ofString "\x7d\x7d"

theorem validate_overlongRating :
    ¬ ∃ fs, (Validator.mk RequirementTable.packaged {}).validate 900
      (.ofTexts "Product" overlongRating) = .ok fs := by
  have hfault : (Validator.mk RequirementTable.packaged {}).validate 900
      (.ofTexts "Product" overlongRating) = .error .ratingTooLarge := by
    decide +kernel
  rintro ⟨fs, hok⟩
  rw [hfault] at hok
  cases hok

end Validator

end StructuredData
