import StructuredData.Failure
import StructuredData.Validator.Trace

/-!
# The default validator

Documents are handed in as a row of items.  All of them must describe submissions before any is
validated: the first that describes none is the fault of the row.

A service validates with one validator that it makes when it is first needed, from the requirement
table that the settings name at that time and the default thresholds.  As long as the table cannot
be loaded there is no validator, and the next request tries again.
-/

namespace StructuredData

namespace Validator

/-- The documents that a row of items describes, validated by so many workers.  The tasks of a pool
finish in the given order. -/
def validateItemsScheduled (v : Validator) (depths : Depths) (finish : List Nat)
    (workers : Option Int) (items : List Value) : Except Failure (List ValidatedDocument) := do
  let ss ← (Submission.ofItems items).mapError .item
  (v.validateScheduled depths finish workers ss).mapError .validation

/-- The documents that a row of items describes, validated by so many workers. -/
def validateItems (v : Validator) (depths : Depths) (workers : Option Int) (items : List Value) :
    Except Failure (List ValidatedDocument) :=
  v.validateItemsScheduled depths (List.range items.length) workers items

/-- The report on the page that a row of items describes. -/
def validateItemsPage (v : Validator) (depths : Depths) (workers : Option Int)
    (items : List Value) : Except Failure PageReport := do
  let ss ← (Submission.ofItems items).mapError .item
  (v.validatePage depths workers ss).mapError .validation

end Validator

/-- What a service remembers: the files, the path of the table, the tables loaded, and the
validator once it is made. -/
structure Service where
  tree : FileTree
  rulesPath : Option Text
  loaded : RequirementTable.Loaded
  validator? : Option Validator

namespace Service

/-- A service that has done nothing yet. -/
def start : Service := ⟨FileTree.empty, none, [], none⟩

/-- The validator, made if there is none yet. -/
def validator (s : Service) (yaml : Yaml.Reader) : Except Failure Validator × Service :=
  match s.validator? with
  | some v => (.ok v, s)
  | none =>
    match RequirementTable.loadOnce yaml s.loaded s.tree s.rulesPath with
    | (.error fault, loaded) => (.error (.table fault), { s with loaded := loaded })
    | (.ok table, loaded) =>
      let v : Validator := ⟨table, {}⟩
      (.ok v, { s with loaded := loaded, validator? := some v })

/-- The answer that the validator gives to a request. -/
def answer {α : Type} (s : Service) (yaml : Yaml.Reader)
    (request : Validator → Except Failure α) : Except Failure α × Service :=
  match s.validator yaml with
  | (.ok v, s) => (request v, s)
  | (.error f, s) => (.error f, s)

/-- Validates a document. -/
def validate (s : Service) (yaml : Yaml.Reader) (depth : Nat) (label schema : Value) :
    Except Failure Findings × Service :=
  s.answer yaml fun v => (v.validate depth ⟨label, schema⟩).mapError .validation

/-- Validates the documents that a row of items describes. -/
def validateMany (s : Service) (yaml : Yaml.Reader) (depths : Depths) (items : List Value) :
    Except Failure (List ValidatedDocument) × Service :=
  s.answer yaml fun v => v.validateItems depths none items

/-- Validates the page that a row of items describes. -/
def validatePage (s : Service) (yaml : Yaml.Reader) (depths : Depths) (items : List Value) :
    Except Failure PageReport × Service :=
  s.answer yaml fun v => v.validateItemsPage depths none items

end Service

end StructuredData
