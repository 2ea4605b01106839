import StructuredData.Files.Tree
import StructuredData.Json.Reader

/-!
# Reading files

A text file is UTF-8, with any of the usual line ends.  A JSON file is a text file that writes a
value.
-/

namespace StructuredData

/-- Why a file gives no text. -/
inductive ReadFault
  | file (fault : FileFault)
  | undecodable (error : Utf8.DecodeError)

/-- The wording of a fault. -/
def ReadFault.message : ReadFault → Text
  | .file fault => fault.message
  | .undecodable error => error.message

/-- Why a file gives no JSON value. -/
inductive JsonFileFault
  | unread (fault : ReadFault)
  | unparsed (source : Text) (fault : Json.Fault)

/-- The wording of a fault. -/
def JsonFileFault.message : JsonFileFault → Text
  | .unread fault => fault.message
  | .unparsed source fault => fault.message source

namespace FileTree

/-- The text of a file, its lines ended by line feeds. -/
def readLines (t : FileTree) (path : Text) : Except ReadFault Text := do
  let octets ← (t.readText path).mapError .file
  let text ← (Utf8.decode octets).mapError .undecodable
  return text.unifyNewlines

/-- The value that a JSON file writes, nested at most so deep. -/
def readJson (t : FileTree) (depth : Nat) (path : Text) : Except JsonFileFault Value := do
  let text ← (t.readLines path).mapError .unread
  (Json.read depth text).mapError (.unparsed text)

end FileTree

end StructuredData
