import StructuredData.Yaml.Reading

/-!
# YAML data

The data that a document stands for: scalars, lists, mappings with scalar keys, and what tags can
ask for besides.  JSON values are data, too.

A reader gives the data that a file writes (`Reader`).
-/

namespace StructuredData

namespace Yaml

/-- The data of a document. -/
inductive Data
  | scalar (s : Scalar)
  | list (items : List Data)
  | mapping (entries : List (Scalar × Data))
  | set (keys : List Scalar)
  | pair (key value : Data)

/-- The entries of a mapping, in order. -/
abbrev Entries := List (Scalar × Data)

/-- The value under a text. -/
def Entries.get? (name : Text) (entries : Entries) : Option Data :=
  (entries.find? fun entry => entry.1 = .string name).map (·.2)

mutual

/-- A JSON value as data. -/
def Data.ofValue : Value → Data
  | .null => .scalar .null
  | .bool b => .scalar (.bool b)
  | .number n => .scalar (.number n)
  | .string t => .scalar (.string t)
  | .array items => .list (Data.ofValues items)
  | .object ms => .mapping (Data.ofMembers ms)

/-- JSON values as data. -/
def Data.ofValues : List Value → List Data
  | [] => []
  | v :: rest => Data.ofValue v :: Data.ofValues rest

/-- The members of a JSON object as entries. -/
def Data.ofMembers : List (Text × Value) → List (Scalar × Data)
  | [] => []
  | (name, v) :: rest => (.string name, Data.ofValue v) :: Data.ofMembers rest

end

/-- What gives the data of a file, or a fault, from the pieces in which the file is read and the
fault that ends them if one does. -/
abbrev Reader := List Text × Option Utf8.DecodeError → Except Fault Data

end Yaml

end StructuredData
