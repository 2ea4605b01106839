import StructuredData.Files.Pieces
import StructuredData.Files.Tree
import StructuredData.Requirement.Table

/-!
# Requirement table files

A requirement table is loaded from a YAML file; without a path it is the packaged one.  A file that
cannot be opened, is no YAML or has the wrong form is rejected; some faults are not caught and keep
their own wording.

What the file writes as YAML is for a reader to say, which is given.
-/

namespace StructuredData

namespace RequirementTable

/-- Why a file is rejected as a requirement table. -/
inductive Rejection
  | unreadable (fault : FileFault)
  | malformed (path : Text)
  | shape (source : Text) (fault : ShapeFault)

/-- The wording of a rejection. -/
def Rejection.message : Rejection → Text
  | .unreadable fault =>
    "Could not load requirement table " ++ fault.path ++ ": " ++ fault.message
  | .malformed path => "Could not load requirement table " ++ path
  | .shape source fault => fault.message source

/-- Why a requirement table cannot be loaded. -/
inductive LoadFault
  | rejected (rejection : Rejection)
  | path (fault : FileFault)
  | keyTooLong
  | value (fault : Yaml.Fault)

/-- The wording of a fault. -/
def LoadFault.message : LoadFault → Text
  | .rejected rejection => rejection.message
  | .path fault => fault.message
  | .keyTooLong => Numeral.tooLongMessage
  | .value fault => fault.message

/-- How deep the data of a table nests: the table, its entries, their lists and the names. -/
def tableDepth : Nat := 3

/-- The fault in the form of the table with the given source. -/
def LoadFault.ofShape (source : Text) : ShapeFault → LoadFault
  | .keyTooLong => .keyTooLong
  | fault => .rejected (.shape source fault)

/-- The table in the octets of a file. -/
def ofOctets (yaml : Yaml.Reader) (path : Text) (octets : Octets) :
    Except LoadFault RequirementTable :=
  match yaml octets.pieces with
  | .error (.token .malformed) => .error (.rejected (.malformed path))
  | .error fault => .error (.value fault)
  | .ok data => (ofData data).mapError (.ofShape path)

/-- The path by which a table is loaded: none where no path is given or the path is empty. -/
def sourcePath? (path : Option Text) : Option Path :=
  (path.filter fun p => !p.isEmpty).map Path.ofText

/-- The table at a path, the packaged one where there is no path.  The packaged table has a file of
its own beside the program, which is read like any other; here it is the table that this file
writes. -/
def load (yaml : Yaml.Reader) (tree : FileTree) (path : Option Text) :
    Except LoadFault RequirementTable :=
  match sourcePath? path with
  | none => .ok packaged
  | some p =>
    match tree.read p with
    | .ok octets => ofOctets yaml p.text octets
    | .error fault =>
      if fault.kind.isInPath then .error (.path fault)
      else .error (.rejected (.unreadable fault))

/-! ## Loaded tables -/

/-- The tables loaded so far, by path text. -/
abbrev Loaded := List (Option Text × RequirementTable)

/-- The table at a path, taken from those loaded before if it is one of them.  A table that is
loaded is kept; a fault leaves no trace. -/
def loadOnce (yaml : Yaml.Reader) (loaded : Loaded) (tree : FileTree) (path : Option Text) :
    Except LoadFault RequirementTable × Loaded :=
  match loaded.find? fun entry => entry.1 = path with
  | some (_, table) => (.ok table, loaded)
  | none =>
    match load yaml tree path with
    | .ok table => (.ok table, loaded ++ [(path, table)])
    | .error fault => (.error fault, loaded)

end RequirementTable

end StructuredData
