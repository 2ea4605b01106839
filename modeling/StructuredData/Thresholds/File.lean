import StructuredData.Files.Filing
import StructuredData.Files.Reading
import StructuredData.Json.Writer
import StructuredData.Thresholds.Reading

/-!
# Threshold files

Thresholds are loaded from a JSON file and saved to one.  A file that is not there gives the
defaults.
-/

namespace StructuredData

namespace Thresholds

/-- Why a file gives no thresholds. -/
inductive LoadFault
  | file (fault : JsonFileFault)
  | shape (fault : ShapeFault)

/-- The wording of a fault. -/
def LoadFault.message : LoadFault → Text
  | .file fault => fault.message
  | .shape fault => fault.message

/-- The thresholds that the file at a path, nested at most so deep, gives. -/
def load (depth : Nat) (tree : FileTree) (path : Text) : Except LoadFault Thresholds := do
  let p := Path.ofText path
  if ← (tree.exists? p).mapError fun fault => .file (.unread (.file fault)) then
    let v ← (tree.readJson depth p.text).mapError .file
    (ofValue v).mapError .shape
  else return {}

/-- The text of the file that gives the thresholds again. -/
def fileText (t : Thresholds) : Text := Json.prettyAscii t.toFileValue

/-- Saves the thresholds to a file, whose directory is made if need be.  The text is ASCII. -/
def save (t : Thresholds) (path : Text) : Filing FileFault Unit :=
  Filing.writeText (Path.ofText path).text (Utf8.octets t.fileText) id

end Thresholds

end StructuredData
