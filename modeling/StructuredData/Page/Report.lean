import StructuredData.Page.Relations
import StructuredData.Validator
import StructuredData.Verdict

/-!
# Page reports

The report on a page holds every document with its findings, all findings of the documents followed
by those on the page as a whole, the latter once more on their own, and the recommendations.

`toValue` gives findings, documents and reports as JSON values, members in a fixed order.
-/

namespace StructuredData

/-- The report on a page. -/
structure PageReport where
  findings : Findings
  recommendations : List Text
  documents : List ValidatedDocument
  pageFindings : List Finding

namespace PageReport

/-- A page is valid when it has no errors. -/
def isValid (r : PageReport) : Bool := r.findings.isValid

end PageReport

/-- The report on a page whose documents are validated by so many workers. -/
def Validator.validatePage (v : Validator) (depths : Depths) (workers : Option Int)
    (ss : List Submission) : Except ValidationFault PageReport := do
  let documents ← v.validateMany depths workers ss
  let page := Findings.ofList (← Page.remarks v.thresholds depths.page ss)
  return {
    findings := documents.foldl (fun acc d => acc ++ d.findings) Findings.empty ++ page
    recommendations := Page.recommendations v.thresholds ss
    documents := documents
    pageFindings := page.toList }

/-! ## As JSON -/

/-- A member for a text that may be absent. -/
def optionalMember (name : Text) (t : Option Text) : Members :=
  match t with
  | some t => [(name, .string t)]
  | none => []

/-- A finding as a JSON object; what it does not have is left out. -/
def Finding.toValue (f : Finding) : Value :=
  .object (("type", .string f.severity.name) :: ("message", .string f.message) ::
    (optionalMember "path" f.path ++ optionalMember "suggestion" f.suggestion))

/-- A row of findings as a JSON array. -/
def Finding.rowValue (fs : List Finding) : Value := .array (fs.map Finding.toValue)

/-- Findings by severity, with validity and score, as a JSON object. -/
def Findings.toValue (fs : Findings) : Value :=
  .object [("isValid", .bool fs.isValid), ("errors", Finding.rowValue fs.errors),
    ("warnings", Finding.rowValue fs.warnings), ("info", Finding.rowValue fs.info),
    ("score", .ofInt fs.score)]

/-- A document with its findings as a JSON object. -/
def ValidatedDocument.toValue (d : ValidatedDocument) : Value :=
  .object [("type", d.submission.label), ("schema", d.submission.schema),
    ("validation", d.findings.toValue)]

/-- The members of a page report as JSON. -/
def PageReport.members (r : PageReport) : Members :=
  [("errors", Finding.rowValue r.findings.errors),
    ("warnings", Finding.rowValue r.findings.warnings),
    ("info", Finding.rowValue r.findings.info),
    ("recommendations", .array (r.recommendations.map .string)),
    ("documents", .array (r.documents.map ValidatedDocument.toValue)),
    ("pageFindings", Finding.rowValue r.pageFindings)]

/-- A page report as a JSON object. -/
def PageReport.toValue (r : PageReport) : Value := .object r.members

end StructuredData
