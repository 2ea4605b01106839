import StructuredData.Number.Reading
import StructuredData.Requirement.Basic
import StructuredData.Yaml.Data

/-!
# Requirement tables from data

A requirement table is written as a mapping of type names to mappings, of which `required` and
`recommended` are lists of property names.  Either list may be left out and is empty then; what else
an entry holds does not matter.  The first entry that is not of this form is the fault, or whose key
is an integer with too many digits to be a name.
-/

namespace StructuredData

namespace RequirementTable

/-- What is wrong with the data of a table. -/
inductive ShapeFault
  | notMapping
  | keyTooLong
  | entryNotMapping (key : Yaml.Scalar)
  | notNames (key : Yaml.Scalar) (list : Text)
deriving DecidableEq

/-- The wording of a fault in the table with the given source. -/
def ShapeFault.message (source : Text) : ShapeFault → Text
  | .notMapping => "Requirement table " ++ source ++ " must be a non-empty mapping"
  | .keyTooLong => Numeral.tooLongMessage
  | .entryNotMapping key => "Entry for " ++ key.shown ++ " in " ++ source ++ " must be a mapping"
  | .notNames key list =>
    key.spelled ++ "." ++ list ++ " in " ++ source ++ " must be a list of property names"

/-- The text of a scalar that is one. -/
def name? : Yaml.Data → Option Text
  | .scalar (.string t) => some t
  | _ => none

/-- The property names under a name in an entry. -/
def names? (list : Text) (entry : Yaml.Entries) : Option (List Text) :=
  match entry.get? list with
  | none => some []
  | some (.list items) => items.mapM name?
  | some _ => none

/-- The requirement that an entry writes. -/
def readRequirement (key : Yaml.Scalar) (entry : Yaml.Entries) : Except ShapeFault Requirement :=
  match names? "required" entry with
  | none => .error (.notNames key "required")
  | some required =>
    match names? "recommended" entry with
    | none => .error (.notNames key "recommended")
    | some recommended => .ok ⟨required, recommended⟩

/-- Whether a key is an integer with more digits than can be written. -/
def isTooLong : Yaml.Scalar → Bool
  | .number (.int n) => Numeral.isTooLong n
  | _ => false

/-- Enters the requirements of a row of entries into a table. -/
def readEntries (table : RequirementTable) : Yaml.Entries → Except ShapeFault RequirementTable
  | [] => .ok table
  | (key, value) :: rest =>
    if isTooLong key then .error .keyTooLong
    else match value with
      | .mapping entry => do
        readEntries (table.put key.spelled (← readRequirement key entry)) rest
      | _ => .error (.entryNotMapping key)

/-- The table that data writes. -/
def ofData : Yaml.Data → Except ShapeFault RequirementTable
  | .mapping [] => .error .notMapping
  | .mapping entries => readEntries [] entries
  | _ => .error .notMapping

end RequirementTable

end StructuredData
