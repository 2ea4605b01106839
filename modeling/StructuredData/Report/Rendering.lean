import StructuredData.Files.Filing
import StructuredData.Log
import StructuredData.Report.Html
import StructuredData.Report.Markdown

/-!
# Rendering reports

A page report is rendered as HTML or as Markdown, by the packaged templates, and can be published as
a file.  A directory of other templates can be named; if it is not there, the packaged ones are used
with a warning.
-/

namespace StructuredData

/-- The formats of rendered reports. -/
inductive ReportFormat
  | html
  | markdown
deriving DecidableEq

namespace ReportFormat

/-- The format of the given name. -/
def ofName? (name : Text) : Option ReportFormat :=
  if name = "html" then some .html else if name = "markdown" then some .markdown else none

/-- The name of a format. -/
def name : ReportFormat → Text
  | .html => "html"
  | .markdown => "markdown"

end ReportFormat

/-- The title of a report that is given none. -/
def PageReport.defaultTitle : Text := "Structured Data Report"

/-- A page report in a format. -/
def PageReport.render (r : PageReport) (format : ReportFormat) (title : Text) (now : Moment) :
    Text :=
  match format with
  | .html => r.html title now
  | .markdown => r.markdown title now

/-- Why a report is not published: there is no format of the given name, a file operation fails, or
the report cannot be encoded. -/
inductive RenderFault
  | unsupported (format : Text)
  | file (fault : FileFault)
  | unencodable (error : Utf8.EncodeError)

/-- The wording of a fault. -/
def RenderFault.message : RenderFault → Text
  | .unsupported format => "Unsupported report format: " ++ format
  | .file fault => fault.message
  | .unencodable error => error.message

namespace PageReport

/-- A page report in the format of the given name. -/
def renderNamed (r : PageReport) (format title : Text) (now : Moment) : Except RenderFault Text :=
  match ReportFormat.ofName? format with
  | some format => .ok (r.render format title now)
  | none => .error (.unsupported format)

/-- Writes a page report, in the format of the given name, to the file at a path.  The directory of
the file is made first, whether or not there is such a format. -/
def publish (r : PageReport) (path format title : Text) (now : Moment) :
    Filing RenderFault Unit := do
  let p := Path.ofText path
  Filing.makeDirectories p.parent .file
  let rendered ← r.renderNamed format title now
  Filing.writeTexts p.text [rendered] .file .unencodable

end PageReport

namespace Templates

/-- The directory of templates that is named first, if any. -/
def directory? (choices : List (Option Text)) : Option Path :=
  (choices.findSome? fun c => c.filter fun t => !t.isEmpty).map Path.ofText

/-- The warning for a directory that is not there. -/
def missingRecord (directory : Path) : LogRecord :=
  ⟨"report_generator", .warning, "Template directory " ++ directory.text ++
    " not found, using packaged templates"⟩

/-- The warning, if the directory that is named first is not there. -/
def warnings (tree : FileTree) (choices : List (Option Text)) :
    Except FileFault (List LogRecord) := do
  match directory? choices with
  | none => return []
  | some p => if ← tree.exists? p then return [] else return [missingRecord p]

end Templates

end StructuredData
