import StructuredData.Document
import StructuredData.Finding

/-!
# Checks

A check reads a document and records what it finds in a collector, which it shares with the checks
before and after it.  Two checks can fail: the table look-up, on a label that cannot be a key, and
the rating check, on an integer beyond the range of floating-point numbers.  What has been recorded
up to there stays in the collector.
-/

namespace StructuredData

/-- Labels that cannot be looked up. -/
inductive UnhashableLabel
  | array
  | object
deriving DecidableEq

/-- Why a document gets no result. -/
inductive ValidationFault
  | unhashable (label : UnhashableLabel)
  | ratingTooLarge
deriving DecidableEq

/-- The wording of a fault. -/
def ValidationFault.message : ValidationFault → Text
  | .unhashable .array => "unhashable type: 'list'"
  | .unhashable .object => "unhashable type: 'dict'"
  | .ratingTooLarge => "int too large to convert to float"

/-- A label as the key of a look-up: arrays and objects cannot be keys. -/
def Value.asKey : Value → Except ValidationFault Value
  | .array _ => .error (.unhashable .array)
  | .object _ => .error (.unhashable .object)
  | v => .ok v

namespace Check

/-- The finding, if the condition holds. -/
def when (condition : Bool) (f : Finding) : List Finding := if condition then [f] else []

/-- The place `name[i]` of an element, followed by the path of a property in it. -/
def itemPath (name : Text) (i : Nat) (property : Text) : Text :=
  name ++ "[" ++ Text.ofNat i ++ "]." ++ property

end Check

/-! ## Checks at work -/

/-- A check at work on a collector of findings. -/
abbrev Checking := ExceptT ValidationFault (StateM Findings)

namespace Checking

/-- Records a finding. -/
def record (f : Finding) : Checking Unit := modify (·.record f)

/-- Records a finding if the condition holds. -/
def recordIf (condition : Bool) (f : Finding) : Checking Unit :=
  if condition then record f else pure ()

/-- A result, or a fault. -/
def ofExcept {α : Type} (r : Except ValidationFault α) : Checking α :=
  match r with
  | .ok a => pure a
  | .error fault => throw fault

/-- A check of each element of a value, taken with its place counted from zero; of none if the value
is no array. -/
def eachItemOf (v : Value) (check : Nat → Value → Checking Unit) : Checking Unit :=
  match v with
  | .array items => items.zipIdx.forM fun item => check item.2 item.1
  | _ => pure ()

/-- How a check ends that is given a collector, and what is in the collector then. -/
def on {α : Type} (check : Checking α) (fs : Findings) : Except ValidationFault α × Findings :=
  check.run.run fs

end Checking

end StructuredData
