import Mathlib.Tactic.Common
import StructuredData.Proofs.Outcome
import StructuredData.Proofs.Validator.Remarks

/-!
# The entry a document is held against

Looking up a label can only fail for a label that cannot be a key.  For a label that is a text the
check of the requirements always answers (`requirements_string`), and the entry it goes by is that
of the document's own first type if the table has one, and that of the label otherwise
(`entryFor`).
-/

namespace StructuredData

namespace RequirementTable

/-- The entry for a document that is declared with a text: that of its own first type, or else that
of the text. -/
def entryFor (table : RequirementTable) (d : Document) (label : Text) : Option Requirement :=
  (d.primaryType.bind table.find?).or (table.find? label)

lemma select_string (table : RequirementTable) (d : Document) (label : Text) :
    table.select d (.string label) = .ok (table.entryFor d label) := by
  unfold select entryFor
  cases d.primaryType.bind table.find? <;> rfl

end RequirementTable

namespace Check

/-- Remarks on the properties that the entry asks for, none without an entry. -/
def missingProperties (d : Document) : Option Requirement → List Finding
  | none => []
  | some r => missingRequired d r ++ missingRecommended d r

lemma requirements_string (table : RequirementTable) (d : Document) (label : Text) :
    requirements table d (.string label) =
      .ok (mismatch d (.string label) ++ missingProperties d (table.entryFor d label)) := by
  unfold requirements
  rw [table.select_string]
  cases table.entryFor d label <;> rfl

/-- For any label: where the check answers, it goes by some entry or by none. -/
lemma requirements_eq_ok {table : RequirementTable} {d : Document} {label : Value}
    {row : List Finding} (h : requirements table d label = .ok row) :
    ∃ entry, row = mismatch d label ++ missingProperties d entry := by
  obtain ⟨entry, -, hrow⟩ := Outcome.bind_eq_ok.mp h
  refine ⟨entry, ?_⟩
  cases entry <;> cases hrow <;> rfl

end Check

namespace Validator

/-- The remarks on a document, one group of checks after another.  Two of the groups can fail; that
of the requirements goes by some entry or by none. -/
lemma remarks_eq_ok {v : Validator} {d : Document} {label : Value} {row : List Finding}
    (h : v.remarks d label = .ok row) :
    ∃ entry typed, Check.datatypes v.thresholds d = .ok typed ∧
      row = Check.keywords d ++ (Check.mismatch d label ++ Check.missingProperties d entry) ++
        Check.typeSpecific v.thresholds d (d.resolvedLabel label) ++ typed ++
        Check.content v.thresholds d label := by
  obtain ⟨required, hrequired, h⟩ := Outcome.bind_eq_ok.mp h
  obtain ⟨entry, rfl⟩ := Check.requirements_eq_ok hrequired
  obtain ⟨typed, htyped, hrow⟩ := Outcome.bind_eq_ok.mp h
  cases hrow
  exact ⟨entry, typed, htyped, rfl⟩

end Validator

end StructuredData
