import StructuredData.Check.Content
import StructuredData.Check.Datatypes
import StructuredData.Check.Keywords
import StructuredData.Check.Requirements
import StructuredData.Pool
import StructuredData.Submission

/-!
# Validation

A validator holds a requirement table and thresholds.  A text that cannot be read gives one error;
any other document goes through five groups of checks, which are at work on one collector, one group
after another.  Several documents are validated one after another or by a pool of workers.
-/

namespace StructuredData

/-- What documents are held against. -/
structure Validator where
  table : RequirementTable
  thresholds : Thresholds

/-- A submission and what was found in it. -/
structure ValidatedDocument where
  submission : Submission
  findings : Findings

namespace Check

/-- The error for a text that cannot be read. -/
def invalidSyntax : Finding :=
  .error "Invalid JSON syntax" "Check for missing commas, brackets, or quotes"

end Check

/-- The document's own first type, or the declared one where it names none. -/
def Document.resolvedLabel (d : Document) (label : Value) : Value :=
  match d.primaryType with
  | some t => .string t
  | none => label

namespace Validator

/-- Checks a document that is declared with a label. -/
def check (v : Validator) (d : Document) (label : Value) : Checking Unit := do
  Checking.keywords d
  Checking.requirements v.table d label
  Checking.typeSpecific v.thresholds d (d.resolvedLabel label)
  Checking.datatypes v.thresholds d
  Checking.content v.thresholds d label

/-- Checks a submission whose text is read up to a depth. -/
def checkSubmission (v : Validator) (depth : Nat) (s : Submission) : Checking Unit :=
  match s.document? depth with
  | none => Checking.record Check.invalidSyntax
  | some d => v.check d s.label

/-- What is found in a submission whose text is read up to a depth. -/
def validate (v : Validator) (depth : Nat) (s : Submission) : Except ValidationFault Findings :=
  match (v.checkSubmission depth s).on .empty with
  | (.ok _, fs) => .ok fs
  | (.error fault, _) => .error fault

/-- A submission with what is found in it. -/
def validateDocument (v : Validator) (depth : Nat) (s : Submission) :
    Except ValidationFault ValidatedDocument := do
  return ⟨s, ← v.validate depth s⟩

/-- The submissions validated one after another. -/
def validateInTurn (v : Validator) (depth : Nat) (ss : List Submission) :
    Except ValidationFault (List ValidatedDocument) := ss.mapM (v.validateDocument depth)

/-- The submissions validated by a pool whose tasks finish in the given order. -/
def validatePooled (v : Validator) (depth : Nat) (finish : List Nat) (ss : List Submission) :
    Except ValidationFault (List ValidatedDocument) :=
  Pool.collect finish (ss.map (v.validateDocument depth))

/-- Whether a pool is used: for more than one worker and more than one document. -/
def usesPool (workers : Option Int) (ss : List Submission) : Bool :=
  workers.any (1 < ·) && 1 < ss.length

/-- The submissions validated by so many workers, one worker where no number is given.  The tasks of
a pool finish in the given order. -/
def validateScheduled (v : Validator) (depths : Depths) (finish : List Nat) (workers : Option Int)
    (ss : List Submission) : Except ValidationFault (List ValidatedDocument) :=
  if usesPool workers ss then v.validatePooled depths.pooled finish ss
  else v.validateInTurn depths.inTurn ss

/-- The submissions validated by so many workers, whose tasks finish one after another. -/
def validateMany (v : Validator) (depths : Depths) (workers : Option Int) (ss : List Submission) :
    Except ValidationFault (List ValidatedDocument) :=
  v.validateScheduled depths (List.range ss.length) workers ss

end Validator

end StructuredData
