import StructuredData.CommandLine.Session

/-!
# What a command line names

A run reads and changes nothing but what its command line and its settings name, so a tree that
shows this much of the files is enough for it.
-/

namespace StructuredData

namespace CommandLine

/-- The path that an option gives, if it gives one. -/
def optionPath (t : Option Text) : List Path := (nonempty t).toList.map Path.ofText

/-- The path of the documents in the archive of a batch file. -/
def archivePath (file : Text) (directory : Option Text) (now : Moment) : List Path :=
  (optionPath directory).map fun base =>
    Archive.documentsDirectory (Archive.runDirectory base (Path.ofText file).stem now)

/-- The paths that a command names. -/
def Command.paths (now : Moment) : Command → List Path
  | .validate file _ _ outputFile => Path.ofText file :: optionPath outputFile
  | .batch file _ outputFile outputDirectory _ =>
    Path.ofText file :: optionPath outputFile ++ archivePath file outputDirectory now
  | .thresholds save => optionPath save

/-- The paths that the settings name. -/
def Settings.paths (s : Settings) : List Path :=
  optionPath s.logFile ++ optionPath s.rulesPath ++ optionPath s.templateDirectory

/-- The paths that a command line and the settings name, each after those on the way to it. -/
def footprint (s : Surroundings) (line : List Text) : List Path :=
  match Arguments.read line with
  | .error _ => []
  | .ok arguments =>
    let command : List Path := arguments.command.toList.flatMap (Command.paths s.now)
    (s.settings.paths ++ optionPath arguments.logFile ++ optionPath arguments.thresholds ++
      command).flatMap Path.upTo

end CommandLine

end StructuredData
