import StructuredData.Proofs.Agreement
import StructuredData.Proofs.Validator.Remarks

/-!
# Comparing two validations check by check

Two validations whose checks agree one by one agree as a whole.  The documents, the labels and what
the documents are held against may all differ; a group that can fail must fail alike.
-/

namespace StructuredData

variable {W : WarningComparison} {v v' : Validator} {d d' : Document} {label label' : Value}

namespace Check

variable {t t' : Thresholds}

lemma content_agree (hempty : RowsAgree W (emptyValues d) (emptyValues d'))
    (hlength : RowsAgree W (descriptionLength t d) (descriptionLength t' d'))
    (hname : RowsAgree W (nameLength t d) (nameLength t' d'))
    (hheadline : RowsAgree W (headlineLength t d label) (headlineLength t' d' label'))
    (hduplicate : RowsAgree W (duplicateName d) (duplicateName d'))
    (hplaceholders : RowsAgree W (placeholders d) (placeholders d'))
    (hshort : RowsAgree W (veryShortDescription t d) (veryShortDescription t' d'))
    (hstuffing : RowsAgree W (keywordStuffing t d) (keywordStuffing t' d')) :
    RowsAgree W (content t d label) (content t' d' label') := by
  have hlengths := ((hempty.append hlength).append hname).append hheadline
  exact (((hlengths.append hduplicate).append hplaceholders).append hshort).append hstuffing

end Check

/-- The document of a text that can be read is that of the value it writes. -/
lemma Submission.document?_of_read (label : Value) {depth : ℕ} {text : Text} {value : Value}
    (hread : Json.read depth text = .ok value) :
    (Submission.mk label (.string text)).document? depth = some (Document.ofValue value) := by
  simp [Submission.document?, Submission.parsed?, Value.text?, Json.read?, hread, Except.toOption]

namespace Validator

lemma remarks_alike (hkeywords : Check.RowsAgree W (Check.keywords d) (Check.keywords d'))
    (hrequired : Outcome.Alike (Check.RowsAgree W) (Check.requirements v.table d label)
      (Check.requirements v'.table d' label'))
    (htypeSpecific : Check.RowsAgree W
      (Check.typeSpecific v.thresholds d (d.resolvedLabel label))
      (Check.typeSpecific v'.thresholds d' (d'.resolvedLabel label')))
    (htyped : Outcome.Alike (Check.RowsAgree W) (Check.datatypes v.thresholds d)
      (Check.datatypes v'.thresholds d'))
    (hcontent : Check.RowsAgree W (Check.content v.thresholds d label)
      (Check.content v'.thresholds d' label')) :
    Outcome.Alike (Check.RowsAgree W) (v.remarks d label) (v'.remarks d' label') := by
  unfold remarks
  refine hrequired.bind fun required required' hrequired => ?_
  refine htyped.bind fun typed typed' htyped => ?_
  have hstart := (hkeywords.append hrequired).append htypeSpecific
  exact .ok ((hstart.append htyped).append hcontent)

/-- Validations agree as soon as the remarks on the documents do, if both texts can be read. -/
lemma validate_alike {depth : ℕ} {s s' : Submission} (hd : s.document? depth = some d)
    (hd' : s'.document? depth = some d')
    (h : Outcome.Alike (Check.RowsAgree W) (v.remarks d s.label) (v'.remarks d' s'.label)) :
    Outcome.Alike (Findings.Agree W) (v.validate depth s) (v'.validate depth s') := by
  rw [validate_of_document? hd, validate_of_document? hd']
  exact h.bind fun _ _ hrows => .ok hrows

end Validator

end StructuredData
