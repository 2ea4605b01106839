import StructuredData.Moment
import StructuredData.Page.Report

/-!
# HTML reports

A page report as an HTML page.  Everything that comes from outside (the title, types, messages,
places and suggestions) is escaped, so that it can add no tag and no attribute.
-/

namespace StructuredData

namespace Html

/-- A code point as text of a page: the signs that could start or end markup are written by name or
number. -/
def escapePoint (c : CodePoint) : Text :=
  if c = '&' then "&amp;"
  else if c = '<' then "&lt;"
  else if c = '>' then "&gt;"
  else if c = '\'' then "&#39;"
  else if c = '"' then "&#34;"
  else [c]

/-- A text as text of a page. -/
def escape (t : Text) : Text := t.flatMap escapePoint

/-- So many blanks. -/
def blanks (n : Nat) : Text := List.replicate n (' ' : CodePoint)

/-- One rule of the page's style. -/
def rule (selector declarations : String) : String :=
  "    " ++ selector ++ " \x7b " ++ declarations ++ " \x7d\n"

/-- The style of the page. -/
def style : Text :=
  (rule "body"
      "font-family: -apple-system, \"Segoe UI\", Roboto, sans-serif; margin: 2rem; color: #1e293b;"
    ++ rule "h1" "margin-bottom: 0.25rem;"
    ++ rule ".meta" "color: #64748b; margin-bottom: 2rem;"
    ++ rule ".doc" ("border: 1px solid #e2e8f0; border-radius: 8px; padding: 1rem 1.5rem; " ++
      "margin-bottom: 1.5rem;")
    ++ rule ".score" "font-weight: bold; padding: 0.2rem 0.6rem; border-radius: 999px;"
    ++ rule ".score.good" "background: #dcfce7; color: #166534;"
    ++ rule ".score.fair" "background: #fef9c3; color: #854d0e;"
    ++ rule ".score.poor" "background: #fee2e2; color: #991b1b;"
    ++ rule ".error" "color: #b91c1c;"
    ++ rule ".warning" "color: #a16207;"
    ++ rule ".info" "color: #1d4ed8;"
    ++ rule ".suggestion" "color: #475569; font-size: 0.9em;"
    ++ rule "code" "background: #f1f5f9; padding: 0 0.3rem; border-radius: 4px;" : String)

/-- The page up to its first heading. -/
def head (title : Text) : Text :=
  "<!DOCTYPE html>\n<html lang=\"en\">\n<head>\n  <meta charset=\"UTF-8\">\n  <title>" ++
    escape title ++ "</title>\n  <style>\n" ++ style ++ "  </style>\n</head>\n<body>\n"

/-- The heading, with the time of the report and its totals. -/
def overview (r : PageReport) (title : Text) (now : Moment) : Text :=
  let line (count : Nat) (noun : Text) : Text := "    " ++ Text.ofNat count ++ noun
  "  <h1>" ++ escape title ++ "</h1>\n  <p class=\"meta\">\n    Generated " ++ escape now.shown ++
    " &middot;\n" ++ line r.documents.length " schemas &middot;\n" ++
    line r.findings.errors.length " errors &middot;\n" ++
    line r.findings.warnings.length " warnings &middot;\n" ++
    line r.findings.info.length " suggestions\n" ++ "  </p>\n\n"

/-- A text between two others, nothing where there is none or it is empty. -/
def around (opening closing : Text) (t : Option Text) : Text :=
  match t with
  | some t => if t.isEmpty then [] else opening ++ escape t ++ closing
  | none => []

/-- A list item for a finding, so many blanks in, with its place if that is wanted. -/
def findingItem (indent : Nat) (withPath : Bool) (f : Finding) : Text :=
  blanks indent ++ "<li class=\"" ++ escape f.severity.name ++ "\">\n" ++ blanks (indent + 2) ++
    "<strong>" ++ escape f.severity.heading ++ "</strong> " ++ escape f.message ++ "\n" ++
    (if withPath then around "<code>" "</code>" f.path else []) ++
    around "<div class=\"suggestion\">" "</div>" f.suggestion ++ blanks indent ++ "</li>\n"

/-- The section of a document. -/
def documentSection (d : ValidatedDocument) : Text :=
  let findings := d.findings.toList
  "  <section class=\"doc\">\n    <h2>" ++ escape d.findings.status.icon ++ " " ++
    escape d.submission.label.spelled ++ "\n      <span class=\"score " ++
    escape d.findings.band.name ++ "\">" ++ Text.ofInt d.findings.score ++
    "/100</span>\n    </h2>\n    <p>" ++ escape d.findings.summary ++ "</p>\n" ++
    (if findings.isEmpty then ([] : Text)
      else "    <ul>\n" ++ findings.flatMap (findingItem 6 true) ++ "    </ul>\n") ++
    "  </section>\n"

/-- A heading with a list below it, nothing where the list is empty. -/
def listing (heading : Text) (items : List Text) : Text :=
  if items.isEmpty then []
  else "  <h2>" ++ heading ++ "</h2>\n  <ul>\n" ++ items.flatten ++ "  </ul>\n"

/-- A list item for a recommendation. -/
def recommendationItem (advice : Text) : Text := "    <li>" ++ escape advice ++ "</li>\n"

end Html

/-- A page report as an HTML page. -/
def PageReport.html (r : PageReport) (title : Text) (now : Moment) : Text :=
  Html.head title ++ Html.overview r title now ++
    r.documents.flatMap Html.documentSection ++ "\n" ++
    Html.listing "Page-level findings" (r.pageFindings.map (Html.findingItem 4 false)) ++ "\n" ++
    Html.listing "Recommendations" (r.recommendations.map Html.recommendationItem) ++
    "</body>\n</html>"

end StructuredData
