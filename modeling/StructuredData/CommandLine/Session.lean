import StructuredData.CommandLine.Arguments
import StructuredData.Failure
import StructuredData.Report.Console
import StructuredData.Validator.Trace

/-!
# Running commands

A command is run in surroundings that stay as they are: environment variables, settings and the
time.  It works on a console: the file tree, and what has been written to the standard output and
the standard error.  A command that fails leaves the console as it is at that point.

Both streams are UTF-8.  The standard output takes a text as a whole or, where it cannot be encoded,
not at all, and the command fails; on the standard error such code points are spelled out.

Log records go to the standard error and, where a log file is named, to the end of that file.
-/

namespace StructuredData

namespace CommandLine

/-- The settings of the program. -/
structure Settings where
  logLevel : Text := "INFO"
  logFile : Option Text := none
  rulesPath : Option Text := none
  templateDirectory : Option Text := none

/-- What commands are run in.  Log records bear the given time; the depths are those up to which
documents, batch files and threshold files are read, and YAML files have a reader. -/
structure Surroundings where
  environment : Thresholds.Variables
  settings : Settings
  now : Moment
  logTime : Text
  depths : Depths
  batchDepth : Nat
  thresholdsDepth : Nat
  yaml : Yaml.Reader

/-- What commands work on. -/
structure Console where
  tree : FileTree
  out : Text
  err : Text

/-- Where log records go. -/
structure LogTarget where
  rank : Nat
  file : Option Path

/-- A command that is being run. -/
abbrev Session := ReaderT (Surroundings × LogTarget) (ExceptT Failure (StateM Console))

/-- A text that is not empty. -/
def nonempty (t : Option Text) : Option Text := t.filter fun t => !t.isEmpty

namespace Session

/-- The surroundings. -/
def surroundings : Session Surroundings := do return (← read).1

/-- The file tree. -/
def tree : Session FileTree := do return (← get).tree

/-- Writes text to the standard output. -/
def write (t : Text) : Session Unit :=
  match Utf8.encode t with
  | .ok _ => modify fun c => { c with out := c.out ++ t }
  | .error e => throw (.unencodable e)

/-- Writes a line to the standard output. -/
def print (t : Text) : Session Unit := write (t ++ "\n")

/-- The files with a line at the end of the log file.  A line that cannot be put there is left
out. -/
def appendLine (tree : FileTree) (file : Path) (line : Text) : FileTree :=
  match Utf8.encode line with
  | .ok octets => (tree.append file octets).toOption.getD tree
  | .error _ => tree

/-- The console with a log record on it. -/
def logged (target : LogTarget) (time : Text) (r : LogRecord) (c : Console) : Console :=
  if r.level.rank < target.rank then c
  else
    let line := r.line time
    let tree := match target.file with
      | some p => appendLine c.tree p line
      | none => c.tree
    { c with tree := tree, err := c.err ++ Utf8.spellOut line }

/-- Makes a log record. -/
def log (r : LogRecord) : Session Unit := do
  let (s, target) ← read
  modify (logged target s.logTime r)

/-- Makes log records in turn. -/
def logAll (rs : List LogRecord) : Session Unit := rs.forM log

/-- A result, or a failure. -/
def ofExcept {ε α : Type} (wrap : ε → Failure) (r : Except ε α) : Session α :=
  match r with
  | .ok a => return a
  | .error e => throw (wrap e)

/-- Work on the file tree. -/
def filing {ε α : Type} (wrap : ε → Failure) (work : Filing ε α) : Session α := do
  let (r, tree) := work.on (← tree)
  modify fun c => { c with tree := tree }
  ofExcept wrap r

end Session

open Session

/-! ## Loading -/

/-- The thresholds of the file that is named, or of the environment. -/
def loadThresholds (path : Option Text) : Session Thresholds := do
  match nonempty path with
  | none =>
    let (t, warnings) := Thresholds.ofVariables (← surroundings).environment
    logAll (warnings.map fun w => ⟨"config", .warning, w⟩)
    return t
  | some path =>
    let tree ← tree
    let p := Path.ofText path
    let _ ← ofExcept .file (tree.exists? p)
    if !tree.isFile p then throw (.input (.missingThresholds path))
    ofExcept (Failure.ofThresholds path)
      (Thresholds.load (← surroundings).thresholdsDepth tree path)

/-- The record on a table that is loaded. -/
def loadedRecord (path : Option Text) (table : RequirementTable) : LogRecord :=
  let source : Text := match RequirementTable.sourcePath? path with
    | some p => p.text
    | none => "<packaged rules>"
  ⟨"rules", .debug, "Loaded " ++ Text.ofNat table.length ++ " schema requirement entries from " ++
    source⟩

/-- The requirement table of the settings. -/
def loadTable : Session RequirementTable := do
  let s ← surroundings
  let path := s.settings.rulesPath
  let table ← ofExcept .table (RequirementTable.load s.yaml (← tree) path)
  log (loadedRecord path table)
  return table

/-- The validator for a command. -/
def loadValidator (thresholdsPath : Option Text) : Session Validator := do
  let thresholds ← loadThresholds thresholdsPath
  return ⟨← loadTable, thresholds⟩

/-! ## Commands -/

/-- Writes a result to the file that is named, or to the standard output. -/
def deliver (result : Text) (outputFile : Option Text) : Session Unit := do
  match nonempty outputFile with
  | none => print result
  | some path =>
    filing id do
      Filing.makeDirectories (Path.ofText path).parent .file
      Filing.writeTexts path [result] .file .unencodable
    print ("\nReport written to " ++ path)

/-- The code with which a command ends that finds no errors, or some. -/
def exitCode (isValid : Bool) : Nat := if isValid then 0 else 1

/-- The code with which a rejected command ends. -/
def usageCode : Nat := 2

/-- Validates the document in a file. -/
def runValidate (thresholdsPath : Option Text) (file type : Text) (output : DocumentOutput)
    (outputFile : Option Text) : Session Nat := do
  let text ← ofExcept (fun fault => .input (.document file fault))
    ((← tree).readLines (Path.ofText file).text)
  let v ← loadValidator thresholdsPath
  let s := Submission.ofTexts type text
  let depth := (← surroundings).depths.alone
  logAll (v.trace depth s)
  let fs ← ofExcept .validation (v.validate depth s)
  match output with
  | .json => deliver (Json.pretty fs.toValue) outputFile
  | .text => (PlainReport.document type fs).forM write
  return exitCode fs.isValid

/-- Renders a page report for a file. -/
def renderReport (r : PageReport) (format : ReportFormat) (file : Text) : Session Text := do
  let s ← surroundings
  logAll (← ofExcept .file (Templates.warnings (← tree) [s.settings.templateDirectory]))
  return r.render format (PageReport.defaultTitle ++ ": " ++ (Path.ofText file).stem) s.now

/-- Saves a page report as a run of the file. -/
def archiveReport (r : PageReport) (file directory : Text) : Session Unit := do
  let now := (← surroundings).now
  let base := Path.ofText directory
  filing .archive (Archive.makeBase base)
  let run ← filing .archive (Archive.makeRun base (Path.ofText file).stem now)
  filing .archive (Archive.save run r now)
  log (Archive.savedRecord run)
  print ("\nResults saved to " ++ run.text)

/-- Validates the documents of a batch file as one page. -/
def runBatch (thresholdsPath : Option Text) (file : Text) (output : PageOutput)
    (outputFile outputDirectory : Option Text) (workers : Int) : Session Nat := do
  let s ← surroundings
  let ss ← ofExcept Failure.ofBatch (Batch.load s.batchDepth (← tree) file)
  let v ← loadValidator thresholdsPath
  logAll (v.tracePage s.depths (some workers) ss)
  let r ← ofExcept .validation (v.validatePage s.depths (some workers) ss)
  match output with
  | .json => deliver (Json.pretty r.toValue) outputFile
  | .html => deliver (← renderReport r .html file) outputFile
  | .markdown => deliver (← renderReport r .markdown file) outputFile
  | .text => (PlainReport.page r).forM write
  match nonempty outputDirectory with
  | some directory => archiveReport r file directory
  | none => pure ()
  return exitCode (r.documents.all fun d => d.findings.isValid)

/-- Shows the thresholds, or saves them to the file that is named. -/
def runThresholds (thresholdsPath save : Option Text) : Session Nat := do
  let t ← loadThresholds thresholdsPath
  match nonempty save with
  | some path =>
    filing .file (t.save path)
    print ("✅ Thresholds saved to " ++ path)
  | none => print t.fileText
  return exitCode true

/-- Runs a command. -/
def runCommand (thresholdsPath : Option Text) : Command → Session Nat
  | .validate file type output outputFile =>
    runValidate thresholdsPath file type output outputFile
  | .batch file output outputFile outputDirectory workers =>
    runBatch thresholdsPath file output outputFile outputDirectory workers
  | .thresholds save => runThresholds thresholdsPath save

/-! ## The program -/

/-- Writes an error to the standard error. -/
def reportError (f : Failure) : Session Unit :=
  modify fun c => { c with err := c.err ++ Utf8.spellOut ("Error: " ++ f.message ++ "\n") }

/-- Runs a command; if what it is given is rejected, the program says so and ends with a code of
its own. -/
def runReporting (thresholdsPath : Option Text) (command : Command) : Session Nat :=
  tryCatch (runCommand thresholdsPath command) fun f => do
    if f.isRejection then
      log ⟨"cli", .debug, "Command failed"⟩
      reportError f
      return usageCode
    else throw f

/-- Opens the log file, if one is named. -/
def openLog : Session Unit := do
  match (← read).2.file with
  | some p =>
    filing .file (Filing.makeDirectories p.parent id)
    filing .file (Filing.step (·.append p []) id)
  | none => pure ()

/-- Does what a command line asks for. -/
def runArguments (arguments : Arguments) : Session Nat := do
  openLog
  match arguments.command with
  | some command => runReporting arguments.thresholds command
  | none =>
    write (usageOf mainGrammar.program)
    return usageCode

/-- How a run of the program ends: its exit code or a failure, and the console it leaves. -/
structure Outcome where
  result : Except Failure Nat
  console : Console

/-- Where the log records of a run go. -/
def logTarget (s : Settings) (arguments : Arguments) : LogTarget :=
  ⟨LogLevel.rankOfName (arguments.logLevel.getD s.logLevel),
    (nonempty (arguments.logFile.or s.logFile)).map Path.ofText⟩

/-- Runs the program on a command line. -/
def run (s : Surroundings) (tree : FileTree) (line : List Text) : Outcome :=
  match Arguments.read line with
  | .error (.help program) => ⟨.ok 0, ⟨tree, usageOf program, []⟩⟩
  | .error (.usage program message) =>
    ⟨.ok usageCode,
      ⟨tree, [], Utf8.spellOut (usageOf program ++ program ++ ": error: " ++ message ++ "\n")⟩⟩
  | .ok arguments =>
    let session := (runArguments arguments).run (s, logTarget s.settings arguments)
    let (result, console) := session.run.run ⟨tree, [], []⟩
    ⟨result, console⟩

end CommandLine

end StructuredData
