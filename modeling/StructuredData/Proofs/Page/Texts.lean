import StructuredData.Proofs.Page.Aggregation

/-!
# Only what a text writes counts

The text of a document is read where the document is validated, and once more where the documents
of a page are compared.  Both look at nothing but the value that is read: documents of the same
declared types whose texts write the same values, however they write them, get the same findings
where these texts can be read, and so do pages of such documents (`validatePage_alike`).
-/

namespace StructuredData

/-- Two submissions declare the same type, and wherever texts are read up to so great a depth,
theirs write the same value, or none. -/
structure Submission.SaysSame (enough : ℕ) (s s' : Submission) : Prop where
  label : s'.label = s.label
  parsed? : ∀ depth, enough ≤ depth → s'.parsed? depth = s.parsed? depth

/-- Two documents that have been validated differ in their texts at most. -/
structure ValidatedDocument.SameButText (d d' : ValidatedDocument) : Prop where
  label : d'.submission.label = d.submission.label
  findings : d'.findings = d.findings

/-- Two reports differ in the texts of their documents at most. -/
structure PageReport.SameButTexts (r r' : PageReport) : Prop where
  findings : r'.findings = r.findings
  recommendations : r'.recommendations = r.recommendations
  documents : List.Forall₂ ValidatedDocument.SameButText r.documents r'.documents
  pageFindings : r'.pageFindings = r.pageFindings

namespace Submission.SaysSame

variable {enough depth : ℕ} {s s' : Submission} {ss ss' : List Submission} {t : Thresholds}
  {v : Validator}

/-! ## One document -/

lemma validate (h : SaysSame enough s s') (v : Validator) (hdepth : enough ≤ depth) :
    v.validate depth s' = v.validate depth s := by
  simp only [Validator.validate, Validator.checkSubmission, Submission.document?,
    h.parsed? depth hdepth, h.label]

lemma completeness (h : SaysSame enough s s') (hdepth : enough ≤ depth) :
    Page.completeness depth s' = Page.completeness depth s := by
  simp only [Page.completeness, h.parsed? depth hdepth, h.label]

lemma validateDocument_alike (h : SaysSame enough s s') (v : Validator) (hdepth : enough ≤ depth) :
    Outcome.Alike ValidatedDocument.SameButText (v.validateDocument depth s)
      (v.validateDocument depth s') := by
  unfold Validator.validateDocument
  rw [h.validate v hdepth]
  cases v.validate depth s with
  | ok fs => exact .ok ⟨h.label, rfl⟩
  | error fault => exact .error fault

/-! ## The documents of a page -/

variable (h : List.Forall₂ (SaysSame enough) ss ss')

include h

/-- What depends on label and value alone is the same row for both pages. -/
lemma map_eq {α : Type} {f : Submission → α}
    (hf : ∀ {s s' : Submission}, SaysSame enough s s' → f s' = f s) : ss'.map f = ss.map f := by
  induction h with
  | nil => rfl
  | cons hs _ ih => rw [List.map_cons, List.map_cons, hf hs, ih]

lemma map_label : ss'.map Submission.label = ss.map Submission.label := map_eq h SaysSame.label

lemma declares : Page.declares ss' = Page.declares ss := by
  have hlabels : ∀ (ss : List Submission) (name : Text),
      Page.declares ss name = (ss.map Submission.label).any (Value.isText name) := by
    intro ss name
    rw [List.any_map]
    rfl
  funext name
  rw [hlabels, hlabels, map_label h]

lemma typeCount : Page.typeCount ss' = Page.typeCount ss := by
  have hlabels : ∀ ss : List Submission,
      (ss.mapM fun s => s.label.asKey) = (ss.map Submission.label).mapM Value.asKey := by
    intro ss
    rw [List.mapM_map]
    rfl
  unfold Page.typeCount
  rw [hlabels, hlabels, map_label h]

lemma remarks (t : Thresholds) (hdepth : enough ≤ depth) :
    Page.remarks t depth ss' = Page.remarks t depth ss := by
  have hcompleteness : ss'.flatMap (Page.completeness depth) =
      ss.flatMap (Page.completeness depth) := by
    rw [List.flatMap_def, List.flatMap_def, map_eq h fun hs => hs.completeness hdepth]
  unfold Page.remarks Page.conflicts Page.foundation
  rw [declares h, typeCount h, hcompleteness]

lemma recommendations (t : Thresholds) :
    Page.recommendations t ss' = Page.recommendations t ss := by
  unfold Page.recommendations
  rw [declares h, h.length_eq]

lemma depthAtWork (depths : Depths) (workers : Option ℤ) :
    Validator.depthAtWork depths workers ss' = Validator.depthAtWork depths workers ss := by
  unfold Validator.depthAtWork Validator.usesPool
  rw [h.length_eq]

/-- Pages of documents that say the same get the same report, up to the texts in it, or fail
alike. -/
lemma validatePage_alike (v : Validator) {depths : Depths} {workers : Option ℤ}
    (hwork : enough ≤ Validator.depthAtWork depths workers ss) (hpage : enough ≤ depths.page) :
    Outcome.Alike PageReport.SameButTexts (v.validatePage depths workers ss)
      (v.validatePage depths workers ss') := by
  have hdocuments : Outcome.Alike (List.Forall₂ ValidatedDocument.SameButText)
      (v.validateInTurn (Validator.depthAtWork depths workers ss) ss)
      (v.validateInTurn (Validator.depthAtWork depths workers ss) ss') :=
    .mapM (h.imp fun _ _ hs => hs.validateDocument_alike v hwork)
  unfold Validator.validatePage
  rw [v.validateMany_eq_inTurn, v.validateMany_eq_inTurn, depthAtWork h,
    remarks h v.thresholds hpage, recommendations h]
  refine hdocuments.bind fun documents documents' hsame => ?_
  cases Page.remarks v.thresholds depths.page ss with
  | error fault => exact .error fault
  | ok row =>
    have hfindings : ∀ start : Findings, documents'.foldl (fun acc d => acc ++ d.findings) start =
        documents.foldl (fun acc d => acc ++ d.findings) start := by
      induction hsame with
      | nil => exact fun _ => rfl
      | cons hd _ ih => exact fun start => by rw [List.foldl_cons, List.foldl_cons, hd.findings, ih]
    exact .ok ⟨congrArg (· ++ Findings.ofList row) (hfindings _), rfl, hsame, rfl⟩

end Submission.SaysSame

end StructuredData
