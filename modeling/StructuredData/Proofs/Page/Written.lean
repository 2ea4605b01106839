import StructuredData.Proofs.Batch.Items
import StructuredData.Proofs.Json.RoundTrip
import StructuredData.Proofs.Page.Aggregation

/-!
# Reports as plain values

Findings are plain values, ones that are read as they were written: their texts and flags are, and a
score has at most three digits.  So is a document with its findings, if it was handed in as text,
and so is the report on a page of such documents.  The documents of a batch file are of this kind.
-/

namespace StructuredData

/-! ## Findings -/

lemma scoreOf_natAbs_le (errors warnings info : ℕ) :
    (scoreOf errors warnings info).natAbs ≤ 100 := by
  unfold scoreOf
  omega

lemma plain_optionalMember {depth : ℕ} {name : Text} {t : Option Text} {m : Text × Value}
    (h : m ∈ optionalMember name t) : m.1 = name ∧ m.2.Plain depth := by
  cases t with
  | none => cases h
  | some t =>
    obtain rfl := List.mem_singleton.mp h
    exact ⟨rfl, .string _ t⟩

lemma Finding.plain_toValue (f : Finding) : f.toValue.Plain 1 := by
  have hnames : ∀ t : Option Text, ∀ name : Text,
      ((optionalMember name t).map Prod.fst).Sublist [name] := by
    intro t name
    cases t with
    | none => exact List.nil_sublist _
    | some t => exact List.Sublist.refl _
  have hdistinct : ([("type" : Text), "message", "path", "suggestion"] : List Text).Nodup := by
    decide
  refine .object (hdistinct.sublist ?_) fun m hm => ?_
  · rw [List.map_cons, List.map_cons, List.map_append]
    exact ((hnames _ _).append (hnames _ _)).cons_cons _ |>.cons_cons _
  · simp only [List.mem_cons, List.mem_append] at hm
    rcases hm with rfl | rfl | hm | hm
    · exact .string _ _
    · exact .string _ _
    · exact (plain_optionalMember hm).2
    · exact (plain_optionalMember hm).2

lemma Finding.plain_rowValue (fs : List Finding) : (Finding.rowValue fs).Plain 2 := by
  refine .array fun item hitem => ?_
  obtain ⟨f, -, rfl⟩ := List.mem_map.mp hitem
  exact f.plain_toValue

lemma Findings.plain_toValue (fs : Findings) : fs.toValue.Plain 3 := by
  have hscore : fs.score.natAbs < 10 ^ maxIntegerDigits :=
    (scoreOf_natAbs_le _ _ _).trans_lt
      ((by decide : 100 < 10 ^ 3).trans_le (Nat.pow_le_pow_right (by decide) (by decide)))
  refine .object ?_ ?_
  · change ([("isValid" : Text), "errors", "warnings", "info", "score"] : List Text).Nodup
    decide
  · simp only [List.forall_mem_cons, List.not_mem_nil, false_implies, implies_true, and_true]
    exact ⟨.bool _ _, Finding.plain_rowValue _, Finding.plain_rowValue _, Finding.plain_rowValue _,
      .integer _ hscore⟩

/-! ## Documents and pages -/

/-- The submission is a declared type and a document, both given as text. -/
def Submission.IsTextual (s : Submission) : Prop := ∃ label schema, s = .ofTexts label schema

lemma ValidatedDocument.plain_toValue {d : ValidatedDocument} (h : d.submission.IsTextual) :
    d.toValue.Plain 4 := by
  obtain ⟨label, schema, hs⟩ := h
  refine .object ?_ ?_
  · change ([("type" : Text), "schema", "validation"] : List Text).Nodup
    decide
  · simp only [List.forall_mem_cons, List.not_mem_nil, false_implies, implies_true, and_true, hs,
      Submission.ofTexts]
    exact ⟨.string _ _, .string _ _, d.findings.plain_toValue⟩

namespace PageReport

variable {r : PageReport}

/-- All documents were handed in as text. -/
def IsTextual (r : PageReport) : Prop := ∀ d ∈ r.documents, d.submission.IsTextual

lemma nodup_members (r : PageReport) : (r.members.map Prod.fst).Nodup := by
  change ([("errors" : Text), "warnings", "info", "recommendations", "documents", "pageFindings"] :
    List Text).Nodup
  decide

lemma plain_members (h : r.IsTextual) : ∀ m ∈ r.members, m.2.Plain 5 := by
  unfold members
  simp only [List.forall_mem_cons, List.not_mem_nil, false_implies, implies_true, and_true]
  have hrow (fs : List Finding) : (Finding.rowValue fs).Plain 5 :=
    (Finding.plain_rowValue fs).mono (by decide)
  refine ⟨hrow _, hrow _, hrow _, .array fun item hitem => ?_, .array fun item hitem => ?_, hrow _⟩
  · obtain ⟨t, -, rfl⟩ := List.mem_map.mp hitem
    exact .string _ t
  · obtain ⟨d, hd, rfl⟩ := List.mem_map.mp hitem
    exact d.plain_toValue (h d hd)

lemma plain_toValue (h : r.IsTextual) : r.toValue.Plain 6 :=
  .object r.nodup_members (plain_members h)

end PageReport

/-! ## Batch files -/

namespace Batch

lemma isTextual_of_documentsFrom {index : ℕ} {items : List Value} {ss : List Submission}
    (h : documentsFrom index items = .ok ss) : ∀ s ∈ ss, s.IsTextual := by
  have hss := documentsFrom_eq_ok_iff.mp h
  clear h
  induction hss with
  | nil => exact List.forall_mem_nil _
  | cons hs _ ih =>
    obtain ⟨label, schema, -, -, rfl⟩ := document?_eq_some_iff.mp hs
    exact List.forall_mem_cons.mpr ⟨⟨_, _, rfl⟩, ih⟩

/-- The documents of a batch file are handed in as text. -/
lemma isTextual_of_load {depth : ℕ} {tree : FileTree} {path : Text} {ss : List Submission}
    (h : load depth tree path = .ok ss) : ∀ s ∈ ss, s.IsTextual := by
  unfold load at h
  split at h
  · next v _ =>
    have hdocuments := Outcome.mapError_eq_ok.mp h
    unfold documents at hdocuments
    split at hdocuments
    · exact isTextual_of_documentsFrom (Outcome.mapError_eq_ok.mp hdocuments)
    · cases hdocuments
  · cases h
  · cases h

end Batch

/-- A report on the documents of a batch file is one on documents handed in as text. -/
lemma PageReport.Aggregates.isTextual {r : PageReport} {v : Validator} {depth page : ℕ}
    {ss : List Submission} (h : r.Aggregates v depth page ss) (hss : ∀ s ∈ ss, s.IsTextual) :
    r.IsTextual := by
  have hdocuments := h.documents
  clear h
  unfold IsTextual
  generalize r.documents = documents at hdocuments
  induction hdocuments with
  | nil => exact nofun
  | cons hs _ ih =>
    obtain ⟨hs', hrest⟩ := List.forall_mem_cons.mp hss
    exact List.forall_mem_cons.mpr ⟨hs.1 ▸ hs', ih hrest⟩

end StructuredData
