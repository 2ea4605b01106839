import StructuredData.Text.Basic

/-!
# Paths

A path is a row of names, counted from the working directory or from the root of the file system.
Empty names and single dots are dropped when a path is read, double dots are kept.  The written form
of a relative path without names is a single dot.  The file system itself follows a written path
step by step, and a single dot is a step there.  A root is written with one slash; exactly two
slashes at the start are kept as they are, and more than two count as one.
-/

namespace StructuredData

/-- Where a path starts. -/
inductive PathStart
  | workingDirectory
  | root
  | doubleSlash
deriving DecidableEq

/-- How the start of a path is written. -/
def PathStart.text : PathStart → Text
  | .workingDirectory => []
  | .root => "/"
  | .doubleSlash => "//"

/-- A path. -/
structure Path where
  start : PathStart
  names : List Text
deriving DecidableEq

namespace Path

/-- The start of the path that a text writes. -/
def startOf (t : Text) : PathStart :=
  match (t.takeWhile fun c => c = ('/' : CodePoint)).length with
  | 0 => .workingDirectory
  | 2 => .doubleSlash
  | _ => .root

/-- The steps of a written path: what stands between its slashes. -/
def steps (t : Text) : List Text := (Text.splitOn '/' t).filter fun name => !name.isEmpty

/-- Whether a step stays where it is or leads up, so that it names nothing. -/
def isDots (step : Text) : Bool := step = "." || step = ".."

/-- The path that a text writes. -/
def ofText (t : Text) : Path := ⟨startOf t, (steps t).filter fun name => name ≠ "."⟩

/-- A path as text. -/
def text (p : Path) : Text :=
  if p.start = .workingDirectory && p.names.isEmpty then "."
  else p.start.text ++ Text.join "/" p.names

/-- A path one name further down. -/
def child (p : Path) (name : Text) : Path := { p with names := p.names ++ [name] }

/-- A path without its last name. -/
def parent (p : Path) : Path := { p with names := p.names.dropLast }

/-- The paths on the way to a path, from its first name on, with the path itself at the end. -/
def upTo (p : Path) : List Path :=
  (List.range p.names.length).map fun n => { p with names := p.names.take (n + 1) }

/-- The last name of a path, empty where there is none. -/
def name (p : Path) : Text := p.names.getLast?.getD []

/-- The last name without its last extension.  A dot at the start or the end of the name starts no
extension. -/
def stem (p : Path) : Text :=
  let tail := p.name.reverse.takeWhile fun c => c ≠ ('.' : CodePoint)
  let rest := p.name.reverse.drop (tail.length + 1)
  if tail.isEmpty || rest.isEmpty then p.name else rest.reverse

end Path

end StructuredData
