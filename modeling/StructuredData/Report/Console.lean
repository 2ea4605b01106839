import StructuredData.Page.Report
import StructuredData.Verdict

/-!
# Reports as plain text

What a terminal shows of the findings in a document and on a page, text by text as it is printed.
-/

namespace StructuredData

namespace PlainReport

/-- A text on a line of its own. -/
def line (t : Text) : Text := t ++ "\n"

/-- A double rule. -/
def doubleRule : Text := line (List.replicate 60 ('=' : CodePoint))

/-- A finding, with its place and suggestion where it has them. -/
def finding (f : Finding) : List Text :=
  let place : Text := match f.path with
    | some p => if p.isEmpty then [] else " [" ++ p ++ "]"
    | none => []
  let suggestion : List Text := match f.suggestion with
    | some s => if s.isEmpty then [] else [line ("      → " ++ s)]
    | none => []
  line ("  • " ++ f.message ++ place) :: suggestion

/-- Findings under a heading, nothing where there are none. -/
def group (heading : Text) (fs : List Finding) : List Text :=
  if fs.isEmpty then [] else line ("\n" ++ heading) :: fs.flatMap finding

/-- A heading between double rules. -/
def banner (heading : Text) : List Text := ["\n" ++ doubleRule, line heading, doubleRule]

/-- The findings in a document with the given label. -/
def document (label : Text) (fs : Findings) : List Text :=
  banner (fs.status.icon ++ " " ++ label) ++
    [line ("\n📊 Score: " ++ Text.ofInt fs.score ++ "/100 (" ++ fs.band.name ++ ")"),
      line ("   " ++ fs.summary)] ++
    group "❌ Errors:" fs.errors ++ group "⚠️  Warnings:" fs.warnings ++
    group "💡 Suggestions:" fs.info

/-- The findings on a page as a whole. -/
def pageFindings (fs : List Finding) : List Text :=
  if fs.isEmpty then [] else banner "Page-level findings" ++ fs.flatMap finding

/-- The recommendations for a page. -/
def recommendations (advice : List Text) : List Text :=
  if advice.isEmpty then []
  else line "\n💡 Recommendations:" :: advice.map fun a => line ("  • " ++ a)

/-- A page report. -/
def page (r : PageReport) : List Text :=
  r.documents.flatMap (fun d => document d.submission.label.spelled d.findings) ++
    pageFindings r.pageFindings ++ recommendations r.recommendations ++
    [line ("\nTotal: " ++ Text.ofNat r.findings.errors.length ++ " errors, " ++
      Text.ofNat r.findings.warnings.length ++ " warnings, " ++
      Text.ofNat r.findings.info.length ++ " suggestions across " ++
      Text.ofNat r.documents.length ++ " schemas\n")]

end PlainReport

end StructuredData
