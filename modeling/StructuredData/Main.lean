import StructuredData.CommandLine.Footprint
import StructuredData.Requirement.Reader
import Std.Time.Zoned

/-!
# The program

The outermost layer: it takes the command line, the environment, the time and the files that the
command line names, runs the commands on them, and puts into effect what they leave behind.  A link
is put down as a text file beside its place that holds the name it stands for.
-/

namespace StructuredData

namespace Program

open CommandLine

/-! ## Surroundings -/

/-- The value of an environment variable. -/
def environmentText (name : Text) : IO (Option Text) :=
  return (← IO.getEnv name.toDisplay).map Text.ofString

/-- The variables that set thresholds. -/
def thresholdVariables : IO Thresholds.Variables := do
  let values ← Setting.all.mapM fun s => do
    return (← environmentText (Thresholds.variableName s)).map (Thresholds.variableName s, ·)
  return values.filterMap id

/-- The settings that the environment gives. -/
def settings : IO Settings := do
  return { logLevel := (← environmentText "LOG_LEVEL").getD "INFO"
           logFile := ← environmentText "LOG_FILE"
           rulesPath := ← environmentText "SCHEMA_RULES_PATH"
           templateDirectory := ← environmentText "REPORT_TEMPLATE_DIR" }

/-- The time by the local clock. -/
def now : IO Moment := do
  let t ← Std.Time.PlainDateTime.now
  return { year := t.date.year.toInt.toNat
           month := t.date.month.toNat
           day := t.date.day.toNat
           hour := t.time.hour.toNat
           minute := t.time.minute.toNat
           second := t.time.second.toNat
           microsecond := t.time.nanosecond.toNat / 1000 }

/-- The time as log records show it, to the millisecond. -/
def logTime (m : Moment) : Text :=
  m.isoDate ++ " " ++ Moment.two m.hour ++ ":" ++ Moment.two m.minute ++ ":" ++
    Moment.two m.second ++ "," ++ Text.padLeft '0' 3 (Text.ofNat (m.microsecond / 1000))

/-- How deep documents may nest in a run.  A thousand calls may be open at once; the pool's threads
start without the calls of the program. -/
def depths : Depths := { alone := 991, inTurn := 987, pooled := 988, page := 990 }

/-- How deep the threshold file of a run may nest: a command that validates stands further down in
the calls than the one that shows the thresholds. -/
def thresholdsDepth (line : List Text) : Nat :=
  match (Arguments.read line).toOption.bind Arguments.command with
  | some (.thresholds _) => 990
  | _ => 989

/-- The surroundings of a run on a command line. -/
def surroundings (line : List Text) : IO Surroundings := do
  let now ← now
  return { environment := ← thresholdVariables
           settings := ← settings
           now := now
           logTime := logTime now
           depths := depths
           batchDepth := 991
           thresholdsDepth := thresholdsDepth line
           yaml := RequirementTable.yamlReader }

/-! ## Files -/

/-- What is found at a path whose parent is a directory. -/
def look (p : Path) : IO (Option FileNode) := do
  try
    return some (.file (← IO.FS.readBinFile p.text.toDisplay).toList)
  catch e =>
    match e with
    | .noFileOrDirectory .. => return none
    | .inappropriateType .. => return some .directory
    | _ => throw e

/-- The tree with what is found at a path, unless the tree shows that already or the way to the
path is no row of directories. -/
def see (tree : FileTree) (p : Path) : IO FileTree := do
  match tree.resolve p with
  | .error _ => return tree
  | .ok place =>
    if (tree.node? place).isSome then return tree
    match ← look p with
    | none => return tree
    | some node => return tree.put place node

/-- The text of a place. -/
def placeText (place : Place) : String :=
  match place with
  | root :: names =>
    if root = ("/" : Text) then (("/" : Text) ++ Text.join "/" names).toDisplay
    else (Text.join "/" place).toDisplay
  | [] => "."

/-- Octets for the system. -/
def bytes (o : Octets) : ByteArray := ⟨o.toArray⟩

/-- Puts a node down at its place. -/
def put (place : Place) : FileNode → IO Unit
  | .file content => IO.FS.writeBinFile (placeText place) (bytes content)
  | .directory => IO.FS.createDir (placeText place)
  | .link target => IO.FS.writeBinFile (placeText place ++ ".txt") (bytes (Utf8.octets target))

/-- Puts down what differs from the tree before. -/
def putChanges (before after : FileTree) : IO Unit :=
  after.nodes.forM fun entry => do
    if before.node? entry.1 ≠ some entry.2 then put entry.1 entry.2

/-! ## Running -/

/-- Writes text to a stream. -/
def write (s : IO.FS.Stream) (t : Text) : IO Unit := do
  s.write (bytes (Utf8.octets t))
  s.flush

/-- The code with which a failing program ends. -/
def failureCode : Nat := 1

/-- Puts an outcome into effect and gives the exit code. -/
def finish (before : FileTree) (o : Outcome) : IO Nat := do
  write (← IO.getStdout) o.console.out
  write (← IO.getStderr) o.console.err
  putChanges before o.console.tree
  match o.result with
  | .ok code => return code
  | .error f =>
    write (← IO.getStderr) (Utf8.spellOut f.message ++ "\n")
    return failureCode

/-- Runs the program on a command line. -/
def run (line : List Text) : IO Nat := do
  let s ← surroundings line
  let before ← (footprint s line).foldlM see FileTree.empty
  finish before (CommandLine.run s before line)

end Program

end StructuredData

/-- Runs the program on the arguments that the system gives. -/
def main (arguments : List String) : IO UInt32 := do
  return UInt32.ofNat (← StructuredData.Program.run (arguments.map StructuredData.Text.ofString))
