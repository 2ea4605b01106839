import StructuredData.Proofs.Check.Permissive
import StructuredData.Proofs.Validator.Comparison

/-!
# One document under two thresholds

Under any two thresholds a document has the same errors and the same notes, or gets no result for
the same reason.  Under thresholds that are at least as permissive it has no more warnings, and its
score is no lower.
-/

namespace StructuredData

open WarningComparison (underLimits)

variable {t t' : Thresholds} {fs fs' : Findings}

lemma Check.content_underLimits (t t' : Thresholds) (d : Document) (label : Value) :
    RowsAgree (underLimits t t') (content t d label) (content t' d label) :=
  content_agree (.refl _) (descriptionLength_underLimits t t' d) (nameLength_underLimits t t' d)
    (headlineLength_underLimits t t' d label) (.refl _) (.refl _)
    (veryShortDescription_underLimits t t' d) (keywordStuffing_underLimits t t' d)

/-- A warning less does not lower the score. -/
lemma Findings.score_le (h : fs.Agree (underLimits t t') fs')
    (hpermissive : t'.AtLeastAsPermissive t) : fs.score ≤ fs'.score := by
  have hwarnings : fs'.warnings.length ≤ fs.warnings.length := h.warnings hpermissive
  unfold score scoreOf
  rw [h.errors, h.info]
  omega

namespace Validator

lemma remarks_underLimits (table : RequirementTable) (t t' : Thresholds) (d : Document)
    (label : Value) :
    Outcome.Alike (Check.RowsAgree (underLimits t t')) ((mk table t).remarks d label)
      ((mk table t').remarks d label) :=
  remarks_alike (.refl _) (.of_eq .refl rfl) (Check.typeSpecific_underLimits t t' d _)
    (Check.datatypes_underLimits t t' d) (Check.content_underLimits t t' d label)

lemma validate_underLimits (table : RequirementTable) (t t' : Thresholds) (depth : ℕ)
    (s : Submission) :
    Outcome.Alike (Findings.Agree (underLimits t t')) ((mk table t).validate depth s)
      ((mk table t').validate depth s) := by
  cases hdocument : s.document? depth with
  | none =>
    -- the text cannot be read, and no limit is applied
    rw [validate_of_unread hdocument, validate_of_unread hdocument]
    exact .ok (Check.RowsAgree.refl _)
  | some d =>
    exact validate_alike hdocument hdocument (remarks_underLimits table t t' d s.label)

/-- The submission, read up to a depth, gets a result without errors. -/
def Passes (v : Validator) (depth : ℕ) (s : Submission) : Prop :=
  ∃ fs, v.validate depth s = .ok fs ∧ fs.isValid = true

lemma passes_iff_of_validate {v : Validator} {depth : ℕ} {s : Submission}
    (h : v.validate depth s = .ok fs) : v.Passes depth s ↔ fs.isValid = true := by
  constructor
  · rintro ⟨found, hfound, hvalid⟩
    rw [h] at hfound
    cases hfound
    exact hvalid
  · intro hvalid
    exact ⟨fs, h, hvalid⟩

/-- Whether a submission passes is no matter of limits. -/
lemma passes_iff (table : RequirementTable) (t t' : Thresholds) (depth : ℕ) (s : Submission) :
    (mk table t).Passes depth s ↔ (mk table t').Passes depth s := by
  have hpasses : ∀ t t', (mk table t).Passes depth s → (mk table t').Passes depth s := by
    rintro t t' ⟨fs, hfs, hvalid⟩
    have halike := validate_underLimits table t t' depth s
    rw [hfs] at halike
    obtain ⟨fs', hfs', hagree⟩ := halike.exists_of_ok
    refine ⟨fs', hfs', ?_⟩
    unfold Findings.isValid at hvalid ⊢
    rw [← hagree.errors]
    exact hvalid
  exact ⟨hpasses t t', hpasses t' t⟩

end Validator

end StructuredData
