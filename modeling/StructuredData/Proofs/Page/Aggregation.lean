import StructuredData.Page.Report
import StructuredData.Proofs.Agreement
import StructuredData.Proofs.Check.Errors
import StructuredData.Proofs.Pool

/-!
# What a page report holds

The report on a page has the documents in the order in which they were handed in, each with what is
found in it where it is validated, and all of their findings followed by the remarks on the page as
a whole.  None of those remarks is an error (`noError_remarks`), and so a page is valid if and only
if each of its documents is (`isValid_iff_documents`).
-/

namespace StructuredData

namespace Page

open Check

variable {t : Thresholds} {depth : ℕ} {ss : List Submission} {row : List Finding}

/-! ## Remarks on the page as a whole -/

lemma noError_incomplete (label : Value) (d : Document) : NoError (incomplete label d) := by
  unfold incomplete
  split_ifs <;> simp

lemma noError_completeness (depth : ℕ) (s : Submission) : NoError (completeness depth s) := by
  unfold completeness
  split
  · exact noError_incomplete _ _
  · exact noError_nil

lemma noError_typeCountRemark (t : Thresholds) (count : ℕ) :
    NoError (typeCountRemark t count) := by
  unfold typeCountRemark
  split_ifs <;> simp

/-- Remarks on a page only warn and note. -/
lemma noError_remarks (h : remarks t depth ss = .ok row) : NoError row := by
  obtain ⟨count, -, hrow⟩ := Outcome.bind_eq_ok.mp h
  cases hrow
  simp [conflicts, foundation, noError_flatMap, noError_completeness, noError_typeCountRemark]

end Page

/-! ## Findings of a row of documents -/

namespace Findings

/-- Sorting a row by severity keeps, within each severity, what the row has. -/
lemma filter_toList_ofList (row : List Finding) (s : Severity) :
    (ofList row).toList.filter (·.severity = s) = row.filter (·.severity = s) := by
  have hfilter (s' : Severity) : (row.filter (·.severity = s')).filter (·.severity = s) =
      if s = s' then row.filter (·.severity = s) else [] := by
    rw [List.filter_filter]
    split_ifs with h
    · subst h
      simp
    · rw [List.filter_eq_nil_iff]
      intro f _ hf
      simp only [Bool.and_eq_true, decide_eq_true_eq] at hf
      exact h (hf.1.symm.trans hf.2)
  unfold toList
  rw [errors_ofList, warnings_ofList, info_ofList, List.filter_append, List.filter_append, hfilter,
    hfilter, hfilter]
  cases s <;> simp

/-- Appending the findings of a row of documents appends their lists of each severity. -/
lemma ofSeverity_foldl_append (documents : List ValidatedDocument) (start : Findings)
    (s : Severity) :
    (documents.foldl (fun acc d => acc ++ d.findings) start).ofSeverity s =
      start.ofSeverity s ++ documents.flatMap fun d => d.findings.ofSeverity s := by
  induction documents generalizing start with
  | nil => simp
  | cons d rest ih =>
    rw [List.foldl_cons, ih, ofSeverity_append, List.flatMap_cons, List.append_assoc]

end Findings

/-! ## The report -/

/-- A report says of some submissions what a validator finds that reads each of them up to one depth
and the page as a whole up to another: its documents are the submissions in their order, each with
what is found in it, its findings are those of the documents, followed by the remarks on the page,
and the latter stand on their own as well, none of them an error. -/
structure PageReport.Aggregates (r : PageReport) (v : Validator) (depth page : ℕ)
    (ss : List Submission) : Prop where
  documents : List.Forall₂ (fun s d => d.submission = s ∧ v.validate depth s = .ok d.findings) ss
    r.documents
  errors : r.findings.errors = r.documents.flatMap fun d => d.findings.errors
  warnings : r.findings.warnings = (r.documents.flatMap fun d => d.findings.warnings) ++
    r.pageFindings.filter (·.severity = .warning)
  info : r.findings.info = (r.documents.flatMap fun d => d.findings.info) ++
    r.pageFindings.filter (·.severity = .info)
  page : ∃ row, Page.remarks v.thresholds page ss = .ok row ∧
    r.pageFindings = row.filter (·.severity = .warning) ++ row.filter (·.severity = .info)
  noError : ∀ f ∈ r.pageFindings, f.severity ≠ .error

namespace Validator

variable {v : Validator} {depth : ℕ} {depths : Depths} {workers : Option ℤ} {ss : List Submission}
  {r : PageReport}

lemma validateDocument_eq_ok_iff {s : Submission} {d : ValidatedDocument} :
    v.validateDocument depth s = .ok d ↔
      d.submission = s ∧ v.validate depth s = .ok d.findings := by
  unfold validateDocument
  rw [Outcome.bind_pure_eq_ok]
  constructor
  · rintro ⟨fs, hfs, rfl⟩
    exact ⟨rfl, hfs⟩
  · rintro ⟨rfl, hfs⟩
    exact ⟨d.findings, hfs, rfl⟩

/-- How a report comes about: the number of workers decides only how deep documents are read. -/
lemma validatePage_eq_ok_iff :
    v.validatePage depths workers ss = .ok r ↔
      ∃ documents row, v.validateInTurn (depthAtWork depths workers ss) ss = .ok documents ∧
        Page.remarks v.thresholds depths.page ss = .ok row ∧
        r = { findings := documents.foldl (fun acc d => acc ++ d.findings) Findings.empty ++
                Findings.ofList row
              recommendations := Page.recommendations v.thresholds ss
              documents := documents
              pageFindings := (Findings.ofList row).toList } := by
  unfold validatePage
  rw [validateMany_eq_inTurn, Outcome.bind_eq_ok]
  constructor
  · rintro ⟨documents, hdocuments, h⟩
    obtain ⟨row, hrow, hr⟩ := Outcome.bind_eq_ok.mp h
    cases hr
    exact ⟨documents, row, hdocuments, hrow, rfl⟩
  · rintro ⟨documents, row, hdocuments, hrow, rfl⟩
    exact ⟨documents, hdocuments, Outcome.bind_eq_ok.mpr ⟨row, hrow, rfl⟩⟩

lemma aggregates_of_validatePage (h : v.validatePage depths workers ss = .ok r) :
    r.Aggregates v (depthAtWork depths workers ss) depths.page ss := by
  obtain ⟨documents, row, hdocuments, hrow, rfl⟩ := validatePage_eq_ok_iff.mp h
  have hnoError := Page.noError_remarks hrow
  have herrors : (Findings.ofList row).errors = [] :=
    List.isEmpty_iff.mp (Findings.isValid_ofList.mpr hnoError)
  have hpage : (Findings.ofList row).toList =
      row.filter (·.severity = .warning) ++ row.filter (·.severity = .info) := by
    unfold Findings.toList
    rw [herrors, Findings.warnings_ofList, Findings.info_ofList, List.nil_append]
  have hlist (s : Severity) :
      (documents.foldl (fun acc d => acc ++ d.findings) Findings.empty ++
        Findings.ofList row).ofSeverity s =
      (documents.flatMap fun d => d.findings.ofSeverity s) ++
        (Findings.ofList row).toList.filter (·.severity = s) := by
    rw [Findings.ofSeverity_append, Findings.ofSeverity_foldl_append, Findings.ofSeverity_ofList,
      Findings.filter_toList_ofList]
    cases s <;> rfl
  have hnone : (Findings.ofList row).toList.filter (·.severity = .error) = [] := by
    rw [Findings.filter_toList_ofList, ← Findings.errors_ofList, herrors]
  refine ⟨?_, ?_, hlist .warning, hlist .info, ⟨row, hrow, hpage⟩, ?_⟩
  · refine (Outcome.mapM_eq_ok.mp hdocuments).imp fun s d hd => ?_
    exact validateDocument_eq_ok_iff.mp hd
  · have herror := hlist .error
    rw [hnone, List.append_nil] at herror
    exact herror
  · intro f hf hseverity
    have hmem : f ∈ (Findings.ofList row).toList.filter (·.severity = .error) :=
      List.mem_filter.mpr ⟨hf, decide_eq_true hseverity⟩
    rw [hnone] at hmem
    cases hmem

end Validator

/-- No remark on the page itself counts against it. -/
lemma PageReport.Aggregates.isValid_iff_documents {r : PageReport} {v : Validator} {depth page : ℕ}
    {ss : List Submission} (h : r.Aggregates v depth page ss) :
    r.isValid = true ↔ ∀ d ∈ r.documents, d.findings.isValid = true := by
  unfold PageReport.isValid Findings.isValid
  rw [h.errors, List.isEmpty_iff, List.flatMap_eq_nil_iff]
  simp only [List.isEmpty_iff]

end StructuredData
