import StructuredData.Files.Reading
import StructuredData.Json.Writer
import StructuredData.Submission

/-!
# Batch files

A batch file is a JSON array of objects, each with a `type` and a `schema`.  The schema is JSON-LD
text or a JSON value that is taken as its text; a type that is no text is taken by its label.
-/

namespace StructuredData

namespace Batch

/-- Why a batch file is rejected. -/
inductive Rejection
  | unreadable (path : Text) (fault : JsonFileFault)
  | notList (path : Text)
  | badItem (index : Nat) (path : Text)

/-- The wording of a rejection. -/
def Rejection.message : Rejection → Text
  | .unreadable path fault => "Could not read batch file " ++ path ++ ": " ++ fault.message
  | .notList path => "Batch file " ++ path ++ " must contain a JSON list"
  | .badItem index path =>
    "Item " ++ Text.ofNat index ++ " in " ++ path ++
      " must be an object with 'type' and 'schema'"

/-- Why a batch file gives no documents: it is rejected, or it nests too deep to be read. -/
inductive Fault
  | rejected (rejection : Rejection)
  | tooDeep (container : Json.Container)

/-- The text of an item's schema: its own, or that of the JSON value. -/
def schemaText : Value → Text
  | .string t => t
  | v => Json.compactAscii v

/-- The document of an item. -/
def document? (item : Value) : Option Submission :=
  match item with
  | .object ms => do
    let label ← Members.get? "type" ms
    let schema ← Members.get? "schema" ms
    return Submission.ofTexts label.spelled (schemaText schema)
  | _ => none

/-- The documents of the items from an index on, or the index of the first that has none. -/
def documentsFrom (index : Nat) : List Value → Except Nat (List Submission)
  | [] => .ok []
  | item :: rest =>
    match document? item with
    | none => .error index
    | some s => do return s :: (← documentsFrom (index + 1) rest)

/-- The documents of a batch, whose file has the given path. -/
def documents (path : Text) : Value → Except Rejection (List Submission)
  | .array items => (documentsFrom 0 items).mapError fun index => .badItem index path
  | _ => .error (.notList path)

/-- The documents of the batch file at a path, nested at most so deep. -/
def load (depth : Nat) (tree : FileTree) (path : Text) : Except Fault (List Submission) :=
  match tree.readJson depth path with
  | .ok v => (documents path v).mapError .rejected
  | .error (.unparsed _ (.tooDeep container)) => .error (.tooDeep container)
  | .error fault => .error (.rejected (.unreadable path fault))

end Batch

end StructuredData
