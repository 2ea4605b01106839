import StructuredData.Batch
import StructuredData.Proofs.Json.Member
import StructuredData.Proofs.Outcome

/-!
# Items of a batch file

An item of a batch file is an object that has a type and a schema.  A list of items gives one
document for each, in their order (`documents_eq_ok_iff`), and a list that holds anything else is
rejected for the first that is no item (`documentsFrom_of_not_isItem`).
-/

namespace StructuredData

namespace Batch

variable {item : Value} {items done rest : List Value} {s : Submission} {ss : List Submission}
  {tree : FileTree} {depth : ℕ} {path : Text}

/-- The item is an object that has a type and a schema. -/
def IsItem (item : Value) : Prop :=
  (∃ label, item.HasMember "type" label) ∧ ∃ schema, item.HasMember "schema" schema

lemma document?_eq_some_iff :
    document? item = some s ↔ ∃ label schema,
      item.HasMember "type" label ∧ item.HasMember "schema" schema ∧
        Submission.ofTexts label.spelled (schemaText schema) = s := by
  simp only [Value.hasMember_iff_members]
  cases item with
  | object ms => simp [document?, Value.members, Option.bind_eq_some_iff]
  | _ => simp [document?, Value.members, Members.get?]

lemma isItem_iff : IsItem item ↔ ∃ s, document? item = some s := by
  simp only [document?_eq_some_iff]
  constructor
  · rintro ⟨⟨label, hlabel⟩, schema, hschema⟩
    exact ⟨_, label, schema, hlabel, hschema, rfl⟩
  · rintro ⟨s, label, schema, hlabel, hschema, -⟩
    exact ⟨⟨label, hlabel⟩, schema, hschema⟩

lemma documentsFrom_eq_ok_iff {index : ℕ} :
    documentsFrom index items = .ok ss ↔
      List.Forall₂ (fun item s => document? item = some s) items ss := by
  induction items generalizing index ss with
  | nil => simp [documentsFrom, eq_comm]
  | cons item rest ih =>
    rw [documentsFrom, List.forall₂_cons_left_iff]
    cases hitem : document? item with
    | none => simp
    | some s =>
      simp only [Outcome.bind_pure_eq_ok, ih, Option.some.injEq]
      constructor
      · rintro ⟨later, hlater, rfl⟩
        exact ⟨s, later, rfl, hlater, rfl⟩
      · rintro ⟨_, later, rfl, hlater, rfl⟩
        exact ⟨later, hlater, rfl⟩

/-- The first item that is none is the one that is named. -/
lemma documentsFrom_of_not_isItem (hdone : ∀ x ∈ done, IsItem x) (hitem : ¬ IsItem item)
    (index : ℕ) : documentsFrom index (done ++ item :: rest) = .error (index + done.length) := by
  induction done generalizing index with
  | nil =>
    have hnone : document? item = none := by
      rwa [isItem_iff, ← Option.ne_none_iff_exists', not_not] at hitem
    simp [documentsFrom, hnone]
  | cons x done ih =>
    obtain ⟨hx, hdone⟩ := List.forall_mem_cons.mp hdone
    obtain ⟨s, hs⟩ := isItem_iff.mp hx
    have hplace : index + 1 + done.length = index + (x :: done).length := by
      rw [List.length_cons]
      omega
    rw [List.cons_append, documentsFrom, hs, ih hdone (index + 1), hplace]
    rfl

/-- What becomes of a file of a list is decided by its items. -/
lemma load_of_readJson (hfile : tree.readJson depth path = .ok (.array items)) :
    load depth tree path = (documents path (.array items)).mapError .rejected := by
  rw [load, hfile]

lemma documents_eq_ok_iff :
    documents path (.array items) = .ok ss ↔
      List.Forall₂ (fun item s => document? item = some s) items ss := by
  rw [documents, Outcome.mapError_eq_ok, documentsFrom_eq_ok_iff]

/-- Where all items have the shape, each gives its document. -/
lemma exists_documents (h : ∀ item ∈ items, IsItem item) :
    ∃ ss, documents path (.array items) = .ok ss := by
  simp only [documents_eq_ok_iff]
  induction items with
  | nil => exact ⟨[], .nil⟩
  | cons item rest ih =>
    obtain ⟨hitem, hrest⟩ := List.forall_mem_cons.mp h
    obtain ⟨s, hs⟩ := isItem_iff.mp hitem
    obtain ⟨ss, hss⟩ := ih hrest
    exact ⟨s :: ss, .cons hs hss⟩

end Batch

end StructuredData
