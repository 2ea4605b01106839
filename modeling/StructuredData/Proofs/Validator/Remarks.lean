import StructuredData.Proofs.Check.Rows
import StructuredData.Validator

/-!
# What validation records

The checks on a document record one row, which is put together of the rows of the five groups
(`Validator.makes_remarks`).  So a validated document has the findings of this row
(`validate_of_document?`), and a text that cannot be read has the one for that
(`validate_of_unread`).
-/

namespace StructuredData

namespace Validator

variable {v : Validator} {depth : ℕ} {s : Submission} {d : Document}

/-- The remarks of all checks on a document that is declared with a label. -/
def remarks (v : Validator) (d : Document) (label : Value) :
    Except ValidationFault (List Finding) := do
  let required ← Check.requirements v.table d label
  let typed ← Check.datatypes v.thresholds d
  return Check.keywords d ++ required ++
    Check.typeSpecific v.thresholds d (d.resolvedLabel label) ++ typed ++
    Check.content v.thresholds d label

/-- A fault of one of the groups comes after what the groups in front of it have recorded. -/
lemma makes_remarks (v : Validator) (d : Document) (label : Value) :
    (v.check d label).Makes (v.remarks d label) := by
  have htyped := ((Check.makes_datatypes v.thresholds d).before
    (Check.records_content v.thresholds d label)).after
      (Check.records_typeSpecific v.thresholds d (d.resolvedLabel label))
  have hrequired := Check.makes_requirements v.table d label
  have hkeywords := Check.records_keywords d
  unfold check remarks
  cases hr : Check.requirements v.table d label with
  | error fault =>
    rw [hr] at hrequired
    obtain ⟨row, hrow⟩ := hrequired
    exact ⟨_, hkeywords.seq (hrow.bind_error _)⟩
  | ok required =>
    rw [hr] at hrequired
    have h := (htyped.after hrequired).after hkeywords
    cases ht : Check.datatypes v.thresholds d with
    | error fault =>
      rw [ht] at h
      exact h
    | ok typed =>
      rw [ht] at h
      simp only [bind, Except.bind, pure, Except.pure, List.append_assoc]
      exact h

lemma validate_of_unread (h : s.document? depth = none) :
    v.validate depth s = .ok (Findings.ofList [Check.invalidSyntax]) := by
  unfold validate checkSubmission
  rw [h]
  rfl

/-- The depth up to which a text is read shows only in the value that is read. -/
lemma validate_congr {depth' : ℕ} (h : s.parsed? depth = s.parsed? depth') :
    v.validate depth s = v.validate depth' s := by
  simp only [validate, checkSubmission, Submission.document?, h]

lemma validate_of_document? (h : s.document? depth = some d) :
    v.validate depth s = (v.remarks d s.label >>= fun row => .ok (Findings.ofList row)) := by
  have hmakes := v.makes_remarks d s.label
  unfold validate checkSubmission
  rw [h]
  dsimp only
  cases hrow : v.remarks d s.label with
  | ok row =>
    rw [hrow] at hmakes
    rw [hmakes]
    rfl
  | error fault =>
    rw [hrow] at hmakes
    obtain ⟨row, hmakes⟩ := hmakes
    rw [hmakes]
    rfl

end Validator

end StructuredData
