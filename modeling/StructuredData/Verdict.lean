import StructuredData.Finding

/-!
# Verdicts

How findings are summed up for a reader: a status, a one-line summary, an icon, and a band for the
score.  Notes change the score and never the status.
-/

namespace StructuredData

/-- The status of a document. -/
inductive Status
  | valid
  | validWithWarnings
  | invalid
deriving DecidableEq

namespace Status

/-- The word for a status. -/
def name : Status → Text
  | .valid => "valid"
  | .validWithWarnings => "valid-with-warnings"
  | .invalid => "invalid"

/-- The icon for a status. -/
def icon : Status → Text
  | .valid => "✅"
  | .validWithWarnings => "⚠️"
  | .invalid => "❌"

end Status

/-- A coarse grade for a score. -/
inductive Band
  | good
  | fair
  | poor
deriving DecidableEq

namespace Band

/-- The word for a band. -/
def name : Band → Text
  | .good => "good"
  | .fair => "fair"
  | .poor => "poor"

/-- The band of a score: good from 90, fair from 70. -/
def ofScore (score : Int) : Band :=
  if 90 ≤ score then .good else if 70 ≤ score then .fair else .poor

end Band

/-- A count with its noun, which takes an s unless the count is one. -/
def counted (count : Nat) (noun : Text) : Text :=
  Text.ofNat count ++ " " ++ noun ++ (if count = 1 then ([] : Text) else "s")

namespace Findings

/-- Errors make a document invalid; warnings alone leave it valid with warnings. -/
def status (fs : Findings) : Status :=
  if !fs.isValid then .invalid
  else if fs.warnings.isEmpty then .valid
  else .validWithWarnings

/-- The findings in one line. -/
def summary (fs : Findings) : Text :=
  match fs.status with
  | .valid => "Perfect! All validations passed."
  | .validWithWarnings => counted fs.warnings.length "warning" ++ " found."
  | .invalid =>
    counted fs.errors.length "error" ++ " and " ++ counted fs.warnings.length "warning" ++
      " found."

/-- The band of the findings' score. -/
def band (fs : Findings) : Band := Band.ofScore fs.score

end Findings

end StructuredData
