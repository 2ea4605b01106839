import StructuredData.Files.Filing
import StructuredData.Json.Writer
import StructuredData.Log
import StructuredData.Moment
import StructuredData.Page.Report
import StructuredData.RunName

/-!
# Archives of validation runs

An archive keeps each run in a directory of its own, named for the label of the run and the second
in which it started: the page report, a file for each document, and a summary.  Beside the runs of
a label, the link `latest` names the run that was saved last.

Saving is a row of file operations.  Each file is written piece by piece, so that one with a text in
it that cannot be encoded is cut off where that text would stand.
-/

namespace StructuredData

namespace Archive

/-- Why a run is not saved: a file operation fails, a text cannot be encoded, or the type of a
document is no text that a file could be named for. -/
inductive Fault
  | file (fault : FileFault)
  | unencodable (error : Utf8.EncodeError)
  | unnamed (kind : Text)

/-- The wording of a fault. -/
def Fault.message : Fault → Text
  | .file fault => fault.message
  | .unencodable error => error.message
  | .unnamed kind => "expected string or bytes-like object, got '" ++ kind ++ "'"

/-- One file operation. -/
def step (operation : FileTree → Except FileFault FileTree) : Filing Fault Unit :=
  Filing.step operation .file

/-! ## Places -/

/-- The directory of a run. -/
def runDirectory (base : Path) (label : Text) (start : Moment) : Path :=
  (base.child (RunName.ofLabel label)).child start.stamp

/-- The directory of a run's documents. -/
def documentsDirectory (run : Path) : Path := run.child "documents"

/-- The name of the file of a document: its number in the report and its type. -/
def documentName (index : Nat) (type : Text) : Text :=
  Moment.two index ++ "_" ++ RunName.ofLabel type ++ ".json"

/-! ## Contents -/

/-- The pieces of the summary of a run. -/
def summaryPieces (r : PageReport) (now : Moment) : List Text :=
  let rule : Text := List.replicate 60 ('=' : CodePoint) ++ "\n"
  let count (name : Text) (n : Nat) : Text := name ++ ": " ++ Text.ofNat n ++ "\n"
  let document (d : ValidatedDocument) (index : Nat) : Text :=
    "[" ++ Text.ofNat index ++ "] " ++ d.submission.label.spelled ++ ": " ++
      Text.ofInt d.findings.score ++ "/100 (" ++ d.findings.band.name ++ ") - " ++
      d.findings.summary ++ "\n"
  let advised (a : Text) : Text := "  • " ++ a ++ "\n"
  let advice : List Text :=
    if r.recommendations.isEmpty then []
    else "\nRecommendations:\n" :: r.recommendations.map advised
  [rule, "STRUCTURED DATA VALIDATION SUMMARY\n", rule ++ "\n",
    "Generated at: " ++ now.shown ++ "\n", count "Documents" r.documents.length,
    count "Errors" r.findings.errors.length, count "Warnings" r.findings.warnings.length,
    count "Info" r.findings.info.length ++ "\n"] ++
    r.documents.zipIdx.map (fun d => document d.1 d.2) ++ advice

/-- The summary of a run. -/
def summary (r : PageReport) (now : Moment) : Text := (summaryPieces r now).flatten

/-- The page report as it is saved, with the time of saving. -/
def reportValue (r : PageReport) (now : Moment) : Value :=
  .object (r.members ++ ([("generated_at", .string now.iso)] : Members))

/-! ## Saving -/

/-- Makes the base directory of an archive. -/
def makeBase (base : Path) : Filing Fault Unit :=
  Filing.makeDirectories base .file

/-- Makes the directory of a run. -/
def makeRun (base : Path) (label : Text) (start : Moment) : Filing Fault Path := do
  let run := runDirectory base label start
  Filing.makeDirectories run .file
  step (·.ensureDirectory (documentsDirectory run))
  return run

/-- Writes texts one after another to a file. -/
def savePieces (path : Path) (pieces : List Text) : Filing Fault Unit :=
  Filing.writeTexts path.text pieces .file .unencodable

/-- Writes a JSON file. -/
def saveJson (path : Path) (v : Value) : Filing Fault Unit := savePieces path (Json.pieces 0 v)

/-- Writes the file of a document. -/
def saveDocument (run : Path) (d : ValidatedDocument) (index : Nat) : Filing Fault Unit :=
  match d.submission.label with
  | .string type =>
    saveJson ((documentsDirectory run).child (documentName index type)) d.toValue
  | v => throw (.unnamed v.kindName)

/-- Saves a page report in the directory of its run. -/
def save (run : Path) (r : PageReport) (now : Moment) : Filing Fault Unit := do
  saveJson (run.child "report.json") (reportValue r now)
  r.documents.zipIdx.forM fun d => saveDocument run d.1 d.2
  savePieces (run.child "summary.txt") (summaryPieces r now)
  step (·.relink (run.parent.child "latest") run.name)

/-- The record on a run that is saved. -/
def savedRecord (run : Path) : LogRecord :=
  ⟨"output_manager", .info, "Saved validation report to " ++ run.text⟩

end Archive

end StructuredData
