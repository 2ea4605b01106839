import StructuredData.Archive
import StructuredData.Batch
import StructuredData.Check.Basic
import StructuredData.Report.Rendering
import StructuredData.Requirement.File
import StructuredData.Thresholds.File

/-!
# Failures

Everything that can keep an operation from giving an answer, with its wording.  Rejections of what
a user hands in are told apart from the rest: the program reports them and ends with a code of its
own.
-/

namespace StructuredData

/-- Why an input of the program is rejected. -/
inductive InputRejection
  | document (path : Text) (fault : ReadFault)
  | batch (rejection : Batch.Rejection)
  | missingThresholds (path : Text)
  | thresholds (path : Text) (fault : Thresholds.LoadFault)

/-- The wording of a rejection. -/
def InputRejection.message : InputRejection → Text
  | .document path fault => "Could not read " ++ path ++ ": " ++ fault.message
  | .batch rejection => rejection.message
  | .missingThresholds path => "Thresholds file " ++ path ++ " does not exist"
  | .thresholds path fault => "Could not read thresholds file " ++ path ++ ": " ++ fault.message

/-- Why an operation gives no answer. -/
inductive Failure
  | input (rejection : InputRejection)
  | table (fault : RequirementTable.LoadFault)
  | validation (fault : ValidationFault)
  | item (fault : ItemFault)
  | file (fault : FileFault)
  | thresholds (fault : Thresholds.LoadFault)
  | tooDeep (container : Json.Container)
  | archive (fault : Archive.Fault)
  | rendering (fault : RenderFault)
  | unencodable (error : Utf8.EncodeError)

namespace Failure

/-- The wording of a failure. -/
def message : Failure → Text
  | .input rejection => rejection.message
  | .table fault => fault.message
  | .validation fault => fault.message
  | .item fault => fault.message
  | .file fault => fault.message
  | .thresholds fault => fault.message
  | .tooDeep container => Json.Fault.message [] (.tooDeep container)
  | .archive fault => fault.message
  | .rendering fault => fault.message
  | .unencodable error => error.message

/-- Whether a failure is the rejection of what a user handed in. -/
def isRejection : Failure → Bool
  | .input _ => true
  | .table (.rejected _) => true
  | _ => false

/-- The failure of a batch file. -/
def ofBatch : Batch.Fault → Failure
  | .rejected rejection => .input (.batch rejection)
  | .tooDeep container => .tooDeep container

/-- The failure of a thresholds file of the given path that is named on the command line: numbers
that are too large and values that nest too deep are not taken for faults of the file. -/
def ofThresholds (path : Text) (fault : Thresholds.LoadFault) : Failure :=
  match fault with
  | .shape (.setting .tooLarge) => .thresholds fault
  | .file (.unparsed _ (.tooDeep container)) => .tooDeep container
  | _ => .input (.thresholds path fault)

end Failure

end StructuredData
