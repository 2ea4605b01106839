import StructuredData.CommandLine.Options

/-!
# Arguments

The commands of the program with their options, and what a command line asks for.

Options that hold for all commands stand before the command.  A part of the line that belongs to
nothing is a fault, which is found last.
-/

namespace StructuredData

namespace CommandLine

/-- How the result for one document is shown. -/
inductive DocumentOutput
  | text
  | json
deriving DecidableEq

/-- How the report on a page is shown. -/
inductive PageOutput
  | text
  | json
  | html
  | markdown
deriving DecidableEq

/-- A command with its options. -/
inductive Command
  | validate (file type : Text) (output : DocumentOutput) (outputFile : Option Text)
  | batch (file : Text) (output : PageOutput) (outputFile outputDirectory : Option Text)
      (workers : Int)
  | thresholds (save : Option Text)
deriving DecidableEq

/-- What a command line asks for; without a command, only help can be given. -/
structure Arguments where
  logLevel : Option Text
  logFile : Option Text
  thresholds : Option Text
  command : Option Command
deriving DecidableEq

/-! ## The grammars -/

/-- The option that asks for help. -/
def helpFlag : Flag := ⟨["-h", "--help"], none, false⟩

/-- An option that may be left out. -/
def optionalFlag (names : List Text) (kind : ValueKind) : Flag := ⟨names, some kind, false⟩

/-- The options before the command. -/
def mainGrammar : Grammar :=
  ⟨"schemacheck",
    [helpFlag, optionalFlag ["--log-level"] (.oneOf ["DEBUG", "INFO", "WARNING", "ERROR"]),
      optionalFlag ["--log-file"] .any, optionalFlag ["--thresholds"] .any],
    some (.command "command" ["validate", "batch", "thresholds"])⟩

/-- The option for the form of the output. -/
def outputFlag (choices : List Text) : Flag := optionalFlag ["--output", "-o"] (.oneOf choices)

/-- The options of `validate`. -/
def validateGrammar : Grammar :=
  ⟨"schemacheck validate",
    [helpFlag, ⟨["--type", "-t"], some .any, true⟩, outputFlag ["text", "json"],
      optionalFlag ["--output-file", "-f"] .any],
    some (.value "file")⟩

/-- The options of `batch`. -/
def batchGrammar : Grammar :=
  ⟨"schemacheck batch",
    [helpFlag, outputFlag ["text", "json", "html", "markdown"],
      optionalFlag ["--output-file", "-f"] .any, optionalFlag ["--output-dir"] .any,
      optionalFlag ["--workers"] .integer],
    some (.value "file")⟩

/-- The options of `thresholds`. -/
def thresholdsGrammar : Grammar :=
  ⟨"schemacheck thresholds", [helpFlag, optionalFlag ["--save"] .any], none⟩

/-! ## Reading -/

/-- The form of output that a value names. -/
def documentOutput (name : Option Text) : DocumentOutput :=
  if name = some "json" then .json else .text

/-- The form of output that a value names. -/
def pageOutput (name : Option Text) : PageOutput :=
  if name = some "json" then .json
  else if name = some "html" then .html
  else if name = some "markdown" then .markdown
  else .text

/-- The number that a value writes, one if there is no value. -/
def workerCount (value : Option Text) : Int :=
  match value with
  | some t => (Numeral.readInt t).toOption.getD 1
  | none => 1

/-- The grammar of a command. -/
def commandGrammar (name : Text) : Grammar :=
  if name = "validate" then validateGrammar
  else if name = "batch" then batchGrammar
  else thresholdsGrammar

/-- The command of a name with what is given to it. -/
def commandOf (name : Text) (given : Given) : Command :=
  let file := given.positional.getD []
  if name = "validate" then
    .validate file ((given.value? "--type").getD []) (documentOutput (given.value? "--output"))
      (given.value? "--output-file")
  else if name = "batch" then
    .batch file (pageOutput (given.value? "--output")) (given.value? "--output-file")
      (given.value? "--output-dir") (workerCount (given.value? "--workers"))
  else .thresholds (given.value? "--save")

/-- The command that is given, and the parts of the line that belong to nothing. -/
def readCommand (given : Given) : Except Stop (Option Command × List Text) :=
  match given.command with
  | none => .ok (none, given.extras)
  | some (name, line) => do
    let inner ← (commandGrammar name).read line
    return (some (commandOf name inner), given.extras ++ inner.extras)

/-- What a command line asks for. -/
def Arguments.read (line : List Text) : Except Stop Arguments := do
  let given ← mainGrammar.read line
  let (command, extras) ← readCommand given
  if !extras.isEmpty then
    throw (.usage mainGrammar.program ("unrecognized arguments: " ++ Text.join " " extras))
  return ⟨given.value? "--log-level", given.value? "--log-file", given.value? "--thresholds",
    command⟩

/-! ## Help -/

/-- An option in a line on usage. -/
def Flag.usage (f : Flag) : Text :=
  let value : Text := match f.value with
    | some _ => " VALUE"
    | none => []
  " [" ++ f.names.head?.getD [] ++ value ++ "]"

/-- The line on the usage of a program. -/
def Grammar.usage (g : Grammar) : Text :=
  let positional : Text := match g.positional with
    | some (.value name) => " " ++ name
    | some (.command _ choices) => " \x7b" ++ Text.join "," choices ++ "\x7d ..."
    | none => []
  "usage: " ++ g.program ++ g.flags.flatMap Flag.usage ++ positional ++ "\n"

/-- The line on the usage of the program of the given name. -/
def usageOf (program : Text) : Text :=
  match [validateGrammar, batchGrammar, thresholdsGrammar].find? fun g => g.program = program with
  | some g => g.usage
  | none => mainGrammar.usage

end CommandLine

end StructuredData
