import StructuredData.Moment
import StructuredData.Page.Report

/-!
# Markdown reports

A page report as Markdown text.
-/

namespace StructuredData

namespace Markdown

/-- A text between two others, nothing where there is none or it is empty. -/
def around (opening closing : Text) (t : Option Text) : Text :=
  match t with
  | some t => if t.isEmpty then [] else opening ++ t ++ closing
  | none => []

/-- A list item for a finding, with its place if that is wanted. -/
def findingItem (withPath : Bool) (f : Finding) : Text :=
  "- **" ++ f.severity.heading ++ "** " ++ f.message ++
    (if withPath then around " (\x60" "\x60)" f.path else []) ++ around ": " [] f.suggestion ++ "\n"

/-- The section of a document. -/
def documentSection (d : ValidatedDocument) : Text :=
  "## " ++ d.findings.status.icon ++ " " ++ d.submission.label.spelled ++ " (" ++
    Text.ofInt d.findings.score ++ "/100, " ++ d.findings.band.name ++ ")\n\n" ++
    d.findings.summary ++ "\n\n" ++ d.findings.toList.flatMap (findingItem true)

/-- A heading with a list below it, nothing where the list is empty. -/
def listing (heading : Text) (items : List Text) : Text :=
  if items.isEmpty then [] else "## " ++ heading ++ "\n\n" ++ items.flatten

/-- The heading, with the time of the report and its totals. -/
def overview (r : PageReport) (title : Text) (now : Moment) : Text :=
  "# " ++ title ++ "\n\nGenerated " ++ now.shown ++ ": " ++ Text.ofNat r.documents.length ++
    " schemas, " ++ Text.ofNat r.findings.errors.length ++ " errors, " ++
    Text.ofNat r.findings.warnings.length ++ " warnings, " ++
    Text.ofNat r.findings.info.length ++ " suggestions.\n\n"

end Markdown

/-- A page report as Markdown text. -/
def PageReport.markdown (r : PageReport) (title : Text) (now : Moment) : Text :=
  Markdown.overview r title now ++ r.documents.flatMap Markdown.documentSection ++
    Markdown.listing "Page-level findings" (r.pageFindings.map (Markdown.findingItem false)) ++
    Markdown.listing "Recommendations" (r.recommendations.map fun advice => "- " ++ advice ++ "\n")

end StructuredData
