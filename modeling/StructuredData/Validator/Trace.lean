import StructuredData.Log
import StructuredData.Page.Report

/-!
# Traces of validation

The log records that validating documents and pages leaves: which texts could not be read, which
types have no entry in the table, and how many findings there were.  The trace of a document whose
validation fails ends where it fails.
-/

namespace StructuredData

namespace Submission

/-- Why a submission's text cannot be read up to a depth, if it cannot. -/
def parseFault? (s : Submission) (depth : Nat) : Option Text :=
  match s.schema with
  | .string t =>
    match Json.read depth t with
    | .ok _ => none
    | .error fault => some (fault.message t)
  | v => some ("the JSON object must be str, bytes or bytearray, not " ++ v.kindName)

end Submission

namespace Validator

/-- The record on a document whose types have no entry in the table. -/
def missingEntry (v : Validator) (d : Document) (label : Value) : List LogRecord :=
  match v.table.select d label with
  | .ok none =>
    let types : Value := if d.types.isEmpty then label else .array (d.types.map .string)
    [⟨"type_checks", .debug, "No requirement entry for " ++ types.shown⟩]
  | _ => []

/-- The records made before a document's findings are counted. -/
def traceChecks (v : Validator) (depth : Nat) (s : Submission) : List LogRecord :=
  match s.document? depth with
  | some d => v.missingEntry d s.label
  | none =>
    [⟨"structure", .debug, "JSON-LD parse failed: " ++ ((s.parseFault? depth).getD []).take 100⟩]

/-- The record on the findings in a document. -/
def countRecord (label : Value) (fs : Findings) : LogRecord :=
  ⟨"validator", .debug, "Validated " ++ label.spelled ++ ": " ++
    Text.ofNat fs.errors.length ++ " errors, " ++ Text.ofNat fs.warnings.length ++
    " warnings, " ++ Text.ofNat fs.info.length ++ " info, score " ++ Text.ofInt fs.score⟩

/-- The records that validating a submission leaves. -/
def trace (v : Validator) (depth : Nat) (s : Submission) : List LogRecord :=
  let counted := match v.validate depth s with
    | .ok fs => [countRecord s.label fs]
    | .error _ => []
  v.traceChecks depth s ++ counted

/-- The records of submissions that are validated one after another, up to the first failure. -/
def traceInTurn (v : Validator) (depth : Nat) : List Submission → List LogRecord
  | [] => []
  | s :: rest =>
    v.trace depth s ++ (if (v.validate depth s).toBool then v.traceInTurn depth rest else [])

/-- The records of submissions that are validated by so many workers. -/
def traceMany (v : Validator) (depths : Depths) (workers : Option Int) (ss : List Submission) :
    List LogRecord :=
  if usesPool workers ss then ss.flatMap (v.trace depths.pooled)
  else v.traceInTurn depths.inTurn ss

/-- The record on a submission that is passed over when the page is looked at as a whole. -/
def skipRecord (depth : Nat) (s : Submission) : List LogRecord :=
  let skipping (what : Text) : List LogRecord :=
    [⟨"relationships", .debug, "Skipping " ++ what ++ " " ++ s.label.spelled ++
      " document in relationship checks"⟩]
  match s.parsed? depth with
  | none => skipping "unparseable"
  | some (.object _) => []
  | some _ => skipping "non-object"

/-- The record on a page's report. -/
def pageRecord (r : PageReport) : LogRecord :=
  ⟨"validator", .debug, "Validated " ++ Text.ofNat r.documents.length ++ " schemas: " ++
    Text.ofNat r.findings.errors.length ++ " errors, " ++
    Text.ofNat r.findings.warnings.length ++ " warnings, " ++
    Text.ofNat r.recommendations.length ++ " recommendations"⟩

/-- The records that validating a page leaves. -/
def tracePage (v : Validator) (depths : Depths) (workers : Option Int) (ss : List Submission) :
    List LogRecord :=
  let counted := match v.validatePage depths workers ss with
    | .ok r => [pageRecord r]
    | .error _ => []
  let skipped :=
    if (v.validateMany depths workers ss).toBool then ss.flatMap (skipRecord depths.page) else []
  v.traceMany depths workers ss ++ skipped ++ counted

end Validator

end StructuredData
