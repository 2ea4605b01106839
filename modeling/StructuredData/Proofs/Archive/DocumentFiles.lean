import StructuredData.Proofs.Archive.Runs

/-!
# The files of the documents of a run

The file of a document is named by the number of the document, a low line and its type.  The number
has two digits or more and its digits end at the first low line, whatever low lines and digits the
type brings in, so that it can be read off the name.  Different documents of a run therefore have
different files, and none of them is written over another (`documentFiles_apart`).
-/

namespace StructuredData

namespace Archive

open StructuredData.Path FileTree Filing

variable {base : Path} {b : Place} {t t' : FileTree} {r : Run} {done : List (List Text × FileNode)}

namespace Run

lemma mem_row_of_document {d : ValidatedDocument × ℕ} (hd : d ∈ r.report.documents.zipIdx) :
    (r.within ["documents", fileName d], written d.1.toValue) ∈ r.row :=
  List.mem_append_right _ (List.mem_append_right _ (List.mem_append_left _
    (List.mem_map.mpr ⟨d, hd, rfl⟩)))

/-- A place that a run has to do with holds in the end what the run puts there, or what it held
before. -/
lemma node?_of_mem_row_or (hdone : done <+: r.row) (hgains : Gains t base b done t')
    {q : List Text} {node : FileNode} (hmem : (q, node) ∈ r.row) :
    t'.node? (b ++ q) = some node ∨ t'.node? (b ++ q) = t.node? (b ++ q) := by
  by_cases hput : (q, node) ∈ done
  · have hnodup : (done.map Prod.fst).Nodup := r.nodup_row.sublist (hdone.map Prod.fst).sublist
    rw [hgains.node?]
    exact .inl (node?_putRow_of_mem (r.isRow_row.of_front hdone) hnodup hput)
  · -- whatever the run puts at this place is the node of the row, and this one is not put yet
    refine .inr (node?_of_gains hdone hgains fun other hother => hput ?_)
    have hsame : (q, other) = (q, node) :=
      List.inj_on_of_nodup_map r.nodup_row (hdone.subset hother) hmem rfl
    exact hsame ▸ hother

end Run

/-- The names for the documents of a run are all different, however many there are and whatever
their types, and the number in front of the first low line of a name is that of the document.  So
where a run is made and saved, the file of each document holds this document in the end, or what was
there before if the run fails before it has come to it; once the run is saved, every document is in
its file. -/
theorem documentFiles_apart :
    (∀ types : List Text, (types.zipIdx.map fun t => documentName t.2 t.1).Nodup) ∧
    (∀ (index : ℕ) (type : Text), numberInFront? (documentName index type) = some index) ∧
    ∀ (base : Text) (t : FileTree) (b : Place), t.resolve (Path.ofText base) = .ok b →
      t.node? b = some .directory → ∀ r : Run,
        let outcome := (r.perform (Path.ofText base)).on t
        ∀ d ∈ r.report.documents.zipIdx, ∀ type, d.1.submission.label = .string type →
          let place := b ++ r.within ["documents", documentName d.2 type]
          (outcome.2.node? place = some (Run.written d.1.toValue) ∨
            outcome.2.node? place = t.node? place) ∧
          (outcome.1 = .ok () → outcome.2.node? place = some (Run.written d.1.toValue)) := by
  refine ⟨nodup_documentNames id, numberInFront?_documentName, ?_⟩
  intro base t b hresolve hdirectory r outcome d hd type hlabel place
  have hstands := stands_of_resolve (readable_ofText base) hresolve hdirectory
  obtain ⟨done, hdone, hgains, hall⟩ := r.gains_perform hstands
  have hname : Run.fileName d = documentName d.2 type := by
    rw [Run.fileName, hlabel]
    rfl
  have hmem := Run.mem_row_of_document hd
  rw [hname] at hmem
  refine ⟨Run.node?_of_mem_row_or hdone hgains hmem, fun hsaved => ?_⟩
  rw [hall.mp hsaved] at hgains
  exact Run.node?_of_mem_row hgains hmem

/-- Three types of documents.  The first two make the same name, and all of them start with a digit
once they are names. -/
def lookalikes : List Text := ["0_A", "_0 A", "1_"]

/-- A run for a page of three documents of such types. -/
def lookalikeRun : Run :=
  let first := homeRun 5
  { first with report := { first.report with
      documents := lookalikes.map fun type => ⟨.ofTexts type "\x7b\x7d", .empty⟩ } }

theorem lookalikeRun_apart :
    let outcome := (lookalikeRun.perform (Path.ofText "reports")).on bareTree
    let file (name : Text) : Place := ("reports" : Text) :: lookalikeRun.within ["documents", name]
    (["00_0_A.json", "01_0_A.json", "02_1.json"] : List Text).Nodup ∧
      numberInFront? "101_7_Product.json" = some 101 ∧
      bareTree.resolve (Path.ofText "reports") = .ok ["reports"] ∧
      bareTree.node? ["reports"] = some .directory ∧ outcome.1 = .ok () ∧
      outcome.2.node? (file "00_0_A.json") =
        some (Run.written (ValidatedDocument.toValue ⟨.ofTexts "0_A" "\x7b\x7d", .empty⟩)) ∧
      outcome.2.node? (file "01_0_A.json") =
        some (Run.written (ValidatedDocument.toValue ⟨.ofTexts "_0 A" "\x7b\x7d", .empty⟩)) := by
  obtain ⟨hnodup, hnumber, hfiles⟩ := documentFiles_apart
  have hresolve : bareTree.resolve (Path.ofText "reports") = .ok ["reports"] := rfl
  have hdirectory : bareTree.node? ["reports"] = some .directory := rfl
  have hsaved : ((lookalikeRun.perform (Path.ofText "reports")).on bareTree).1.toOption =
      some () := by
    decide +kernel
  have hok := Outcome.eq_ok_of_toOption hsaved
  have hplaces := hfiles "reports" bareTree ["reports"] hresolve hdirectory lookalikeRun
  have hfirst := (hplaces _ List.mem_cons_self "0_A" rfl).2 hok
  have hsecond := (hplaces _ (List.mem_cons_of_mem _ List.mem_cons_self) "_0 A" rfl).2 hok
  exact ⟨hnodup lookalikes, hnumber 101 "7 Product", hresolve, hdirectory, hok, hfirst, hsecond⟩

end Archive

end StructuredData
