import StructuredData.Proofs.Archive.Names
import StructuredData.Proofs.Files.Rows
import StructuredData.Proofs.Json.Pieces

/-!
# What one run puts into an archive

A run makes its directory and saves its report there.  Whatever comes of it, it has then put the
first nodes of one row below the base of the archive, and all of them if and only if it is saved
(`completes_perform`).  The row tells the whole effect of a run, and it does not depend on what the
archive holds.

The report and the summary may be cut off at a text that cannot be encoded.  The files of documents
never are: what stands in a document stands in the report too, which is written before them.
-/

namespace StructuredData

namespace Archive

open StructuredData.Path FileTree Filing

variable {base : Path} {b : Place} {t t' : FileTree}

/-! ## Runs -/

/-- What is to be saved: the label of a run and the moment it starts, and its report with the time
of saving. -/
structure Run where
  label : Text
  start : Moment
  report : PageReport
  now : Moment

namespace Run

/-- Makes the directory of a run below a base and saves its report there. -/
def perform (base : Path) (r : Run) : Filing Fault Unit := do
  let run ← makeRun base r.label r.start
  save run r.report r.now

/-- The name of the directory for the runs of a label. -/
def shelf (r : Run) : Text := RunName.ofLabel r.label

/-- The way from the base to what has the given names in the directory of a run. -/
def within (r : Run) (names : List Text) : List Text := r.shelf :: r.start.stamp :: names

/-- The name of the file of a document of the run. -/
def fileName (d : ValidatedDocument × ℕ) : Text := documentName d.2 d.1.submission.label.spelled

/-- A value as it is written to a file. -/
def written (v : Value) : FileNode := .file (Utf8.octets (Json.pretty v))

/-- The file of some texts, cut off at the first that cannot be encoded. -/
def writtenTexts (texts : List Text) : FileNode := .file (Utf8.encodeAll texts).1

/-- The directories that a run makes. -/
def directoryRow (r : Run) : List (List Text × FileNode) :=
  directories (r.within []) ++ [(r.within ["documents"], .directory)]

lemma directories_within (r : Run) :
    directories (r.within []) = [([r.shelf], .directory), (r.within [], .directory)] := by
  simp [directories, within]

/-- The files that a run writes for its documents. -/
def documentRow (r : Run) : List (List Text × FileNode) :=
  r.report.documents.zipIdx.map fun d => (r.within ["documents", fileName d], written d.1.toValue)

/-- What a run puts down for its report, link and all. -/
def reportRow (r : Run) : List (List Text × FileNode) :=
  let pieces := Json.pieces 0 (reportValue r.report r.now)
  [(r.within ["report.json"], writtenTexts pieces)] ++ (r.documentRow ++
    ([(r.within ["summary.txt"], writtenTexts (summaryPieces r.report r.now))] ++
      [([r.shelf, "latest"], .link r.start.stamp)]))

/-- The nodes that a run puts down, in their order. -/
def row (r : Run) : List (List Text × FileNode) := r.directoryRow ++ r.reportRow

variable {r : Run}

/-! ## The places of a run -/

lemma isName_fixed : ∀ name ∈ [("documents" : Text), "report.json", "summary.txt", "latest"],
    IsName name := by
  simp only [List.forall_mem_cons, List.not_mem_nil, false_implies, implies_true, and_true]
  refine ⟨?_, ?_, ?_, ?_⟩ <;> exact RunName.isName_of_isSafe (by decide) (by decide) (by decide)

lemma isName_single {name : Text}
    (h : name ∈ [("documents" : Text), "report.json", "summary.txt", "latest"]) :
    ∀ other ∈ [name], IsName other :=
  List.forall_mem_singleton.mpr (isName_fixed name h)

lemma isName_within {names : List Text} (h : ∀ name ∈ names, IsName name) :
    ∀ name ∈ r.within names, IsName name :=
  List.forall_mem_cons.mpr ⟨RunName.isName_ofLabel r.label,
    List.forall_mem_cons.mpr ⟨Moment.isName_stamp r.start, h⟩⟩

lemma isName_directory (r : Run) : ∀ name ∈ r.within [], IsName name :=
  isName_within (List.forall_mem_nil _)

lemma isRow_within {names : List Text} (h : ∀ name ∈ names, IsName name) (node : FileNode) :
    IsRow [(r.within names, node)] :=
  isRow_singleton (isName_within h) (List.cons_ne_nil _ _) node

lemma isName_latest (r : Run) : ∀ name ∈ [r.shelf, "latest"], IsName name :=
  List.forall_mem_cons.mpr ⟨RunName.isName_ofLabel r.label,
    isName_single (by decide)⟩

lemma isName_document (d : ValidatedDocument × ℕ) :
    ∀ name ∈ [("documents" : Text), fileName d], IsName name :=
  List.forall_mem_cons.mpr ⟨isName_fixed _ (by decide),
    List.forall_mem_singleton.mpr (isName_documentName _ _)⟩

lemma isRow_directoryRow (r : Run) : IsRow r.directoryRow :=
  isRow_append (isRow_directories r.isName_directory)
    (isRow_within (isName_single (by decide)) _)

lemma isRow_documentRow (r : Run) : IsRow r.documentRow := by
  intro e he
  obtain ⟨d, -, rfl⟩ := List.mem_map.mp he
  exact ⟨List.cons_ne_nil _ _, isName_within (isName_document d)⟩

lemma isRow_reportRow (r : Run) : IsRow r.reportRow := by
  refine isRow_append ?_ (isRow_append r.isRow_documentRow (isRow_append ?_ ?_))
  · exact isRow_within (isName_single (by decide)) _
  · exact isRow_within (isName_single (by decide)) _
  · exact isRow_singleton r.isName_latest (List.cons_ne_nil _ _) _

lemma isRow_row (r : Run) : IsRow r.row := isRow_append r.isRow_directoryRow r.isRow_reportRow

/-! ## What a run puts down -/

lemma runDirectory_eq (base : Path) (label : Text) (start : Moment) :
    runDirectory base label start = base.below [RunName.ofLabel label, start.stamp] := by
  simp [runDirectory, child, below]

lemma child_below (base : Path) (q : List Text) (name : Text) :
    (base.below q).child name = base.below (q ++ [name]) := by
  simp [child, below]

/-- The work of a run in terms of the ways from the base. -/
lemma makeRun_eq (r : Run) :
    makeRun base r.label r.start = do
      makeDirectories (base.below (r.within [])) .file
      step (·.ensureDirectory (base.below (r.within ["documents"])))
      return runDirectory base r.label r.start := by
  unfold makeRun
  dsimp only
  rw [runDirectory_eq, documentsDirectory, child_below]
  rfl

lemma saveDocument_eq (r : Run) {d : ValidatedDocument × ℕ} {type : Text}
    (hlabel : d.1.submission.label = .string type) :
    saveDocument (runDirectory base r.label r.start) d.1 d.2 =
      saveJson (base.below (r.within ["documents", fileName d])) d.1.toValue := by
  have hname : fileName d = documentName d.2 type := by rw [fileName, hlabel]; rfl
  unfold saveDocument
  rw [hlabel, hname, runDirectory_eq, documentsDirectory]
  dsimp only
  rw [child_below, child_below]
  rfl

lemma save_eq (r : Run) :
    save (runDirectory base r.label r.start) r.report r.now = (do
      saveJson (base.below (r.within ["report.json"])) (reportValue r.report r.now)
      r.report.documents.zipIdx.forM fun d =>
        saveDocument (runDirectory base r.label r.start) d.1 d.2
      savePieces (base.below (r.within ["summary.txt"])) (summaryPieces r.report r.now)
      step (·.relink (base.below [r.shelf, "latest"]) r.start.stamp)) := by
  have hparent : (runDirectory base r.label r.start).parent.child "latest" =
      base.below [r.shelf, "latest"] := by
    simp [runDirectory, child, parent, below, shelf]
  have hname : (runDirectory base r.label r.start).name = r.start.stamp := by
    simp [runDirectory, child, Path.name]
  unfold save
  rw [hparent, hname, runDirectory_eq, child_below, child_below]
  rfl

lemma eq_runDirectory_of_makeRun {run : Path} {label : Text} {start : Moment}
    (h : (makeRun base label start).on t = (.ok run, t')) :
    run = runDirectory base label start := by
  obtain ⟨_, _, -, h⟩ := on_bind_eq_ok.mp h
  obtain ⟨_, _, -, h⟩ := on_bind_eq_ok.mp h
  cases h
  rfl

lemma puts_savePieces (r : Run) {names : List Text} (hnames : ∀ name ∈ names, IsName name)
    (pieces : List Text) :
    Puts base b (savePieces (base.below (r.within names)) pieces)
      [(r.within names, writtenTexts pieces)] :=
  puts_writeTexts (isName_within hnames) (List.cons_ne_nil _ _) _ _ _

lemma isEncodable_of_saveJson {path : Path} {v : Value}
    (h : (saveJson path v).on t = (.ok (), t')) : Json.IsEncodable v :=
  Json.isEncodable_of_encodeAll (on_writeTexts_eq_ok.mp h).1

/-- A value that can be encoded is written to the end. -/
lemma written_eq {v : Value} (h : Json.IsEncodable v) :
    written v = writtenTexts (Json.pieces 0 v) := by
  rw [written, writtenTexts, Json.encodeAll_pieces h]

/-- What stands in a document stands in the report. -/
lemma isEncodable_document (h : Json.IsEncodable (reportValue r.report r.now))
    {d : ValidatedDocument} (hd : d ∈ r.report.documents) : Json.IsEncodable d.toValue := by
  have hdocuments : (Text.ofString "documents",
      Value.array (r.report.documents.map ValidatedDocument.toValue)) ∈ r.report.members := by
    simp [PageReport.members]
  exact (h.of_object (List.mem_append_left _ hdocuments)).of_array (List.mem_map_of_mem hd)

lemma puts_makeRun (r : Run) : Puts base b (makeRun base r.label r.start) r.directoryRow := by
  have hdocuments : ∀ name ∈ r.within ["documents"], IsName name :=
    isName_within (isName_single (by decide))
  have hlast : IsRow [(r.within ["documents"], FileNode.directory)] :=
    isRow_singleton hdocuments (List.cons_ne_nil _ _) _
  rw [makeRun_eq]
  refine puts_bind (isRow_directories r.isName_directory) hlast
    (puts_makeDirectories r.isName_directory _) fun _ _ _ _ => ?_
  refine puts_bind hlast (List.forall_mem_nil _) ?_ fun _ _ _ _ => puts_pure _
  refine (completes_step fun _ _ hstands hensure => ?_).puts
  exact (gains_of_ensureDirectory hstands hdocuments (List.cons_ne_nil _ _) hensure).2

lemma puts_saveDocument (r : Run) {d : ValidatedDocument × ℕ}
    (hencodable : Json.IsEncodable d.1.toValue) :
    Puts base b (saveDocument (runDirectory base r.label r.start) d.1 d.2)
      [(r.within ["documents", fileName d], written d.1.toValue)] := by
  by_cases hlabel : ∃ type, d.1.submission.label = .string type
  · obtain ⟨type, hlabel⟩ := hlabel
    rw [saveDocument_eq r hlabel, written_eq hencodable]
    exact r.puts_savePieces (isName_document d) _
  · unfold saveDocument
    split
    · next type htype => exact absurd ⟨type, htype⟩ hlabel
    · exact puts_throw _

lemma completes_save (r : Run) :
    Completes base b (save (runDirectory base r.label r.start) r.report r.now) r.reportRow := by
  have hreport : ∀ name ∈ [("report.json" : Text)], IsName name := isName_single (by decide)
  have hsummary : ∀ name ∈ [("summary.txt" : Text)], IsName name := isName_single (by decide)
  have hlatest : IsRow [([r.shelf, "latest"], FileNode.link r.start.stamp)] :=
    isRow_singleton r.isName_latest (List.cons_ne_nil _ _) _
  rw [save_eq]
  refine completes_bind (isRow_within hreport _)
    (isRow_append r.isRow_documentRow (isRow_append (isRow_within hsummary _) hlatest))
    (by simp) (r.puts_savePieces hreport _) fun _ _ _ hsaved => ?_
  have hdocuments : ∀ d ∈ r.report.documents.zipIdx, Json.IsEncodable d.1.toValue := fun d hd =>
    isEncodable_document (isEncodable_of_saveJson hsaved) (List.fst_mem_of_mem_zipIdx hd)
  refine completes_bind r.isRow_documentRow (isRow_append (isRow_within hsummary _) hlatest)
    (by simp) (puts_forM (fun d _ => isRow_within (isName_document d) _)
      fun d hd => r.puts_saveDocument (hdocuments d hd)) fun _ _ _ _ => ?_
  refine completes_bind (isRow_within hsummary _) hlatest (by simp)
    (r.puts_savePieces hsummary _) fun _ _ _ _ => ?_
  exact completes_step fun _ _ hstands hrelink =>
    gains_of_relink hstands r.isName_latest (List.cons_ne_nil _ _) hrelink

/-- A run puts down the first nodes of its row, and all of them if and only if it is saved. -/
lemma completes_perform (r : Run) : Completes base b (r.perform base) r.row := by
  refine completes_bind r.isRow_directoryRow r.isRow_reportRow (by simp [reportRow]) r.puts_makeRun
    fun run t t' hrun => ?_
  rw [eq_runDirectory_of_makeRun hrun]
  exact r.completes_save

lemma gains_perform (r : Run) (hstands : Stands t base b) :
    ∃ done, done <+: r.row ∧ Gains t base b done ((r.perform base).on t).2 ∧
      (((r.perform base).on t).1 = .ok () ↔ done = r.row) := by
  obtain ⟨done, hdone, hgains, hall⟩ := r.completes_perform t hstands
  exact ⟨done, hdone, hgains, fun h => hall.mp ⟨(), h⟩, fun h => (hall.mpr h).choose_spec⟩

/-! ## The places apart -/

/-- The documents of a run have files of their own. -/
lemma nodup_fileNames (documents : List ValidatedDocument) :
    (documents.zipIdx.map fileName).Nodup := by
  unfold fileName
  exact nodup_documentNames (fun d => d.submission.label.spelled) documents

lemma length_of_mem_documentRow {e : List Text × FileNode} (he : e ∈ r.documentRow) :
    e.1.length = 4 := by
  obtain ⟨d, -, rfl⟩ := List.mem_map.mp he
  rfl

/-- A run puts everything down once. -/
lemma nodup_row (r : Run) : (r.row.map Prod.fst).Nodup := by
  have hlatest := Moment.stamp_ne_latest r.start
  have hnames : ([("documents" : Text), "report.json", "summary.txt"] : List Text).Nodup := by
    decide
  have hdocuments : (r.documentRow.map Prod.fst).Nodup := by
    have hfiles := nodup_fileNames r.report.documents
    unfold documentRow
    rw [List.map_map]
    refine List.pairwise_map.mpr ((List.pairwise_map.mp hfiles).imp fun hne heq => hne ?_)
    simpa [within] using heq
  have hshort : ∀ q node, q.length ≠ 4 → (q, node) ∉ r.documentRow :=
    fun q node hq hmem => hq (length_of_mem_documentRow hmem)
  have hlong : ∀ q node, (q, node) ∈ r.documentRow →
      q ≠ r.within ["summary.txt"] ∧ q ≠ [r.shelf, "latest"] := by
    intro q node hmem
    have hlength := length_of_mem_documentRow hmem
    constructor <;> rintro rfl <;> cases hlength
  simp only [List.nodup_cons, List.mem_cons, List.not_mem_nil, or_false, not_or] at hnames
  simpa [row, directoryRow, reportRow, directories, within, List.nodup_append, hdocuments, hlatest,
    hshort, hnames] using hlong

/-- A run that is saved has put down everything of its row. -/
lemma node?_of_mem_row (hgains : Gains t base b r.row t') {q : List Text} {node : FileNode}
    (hmem : (q, node) ∈ r.row) : t'.node? (b ++ q) = some node := by
  rw [hgains.node?]
  exact node?_putRow_of_mem r.isRow_row r.nodup_row hmem

/-- What a run puts down stands in one of its directories, or in the base. -/
lemma dropLast_prefix_of_mem_row {e : List Text × FileNode} (he : e ∈ r.row) :
    e.1.dropLast <+: r.within ["documents"] := by
  simp only [row, directoryRow, directories_within, reportRow, documentRow, List.mem_append,
    List.mem_map, List.mem_cons, List.not_mem_nil, or_false] at he
  rcases he with ((rfl | rfl) | rfl) | rfl | ⟨d, -, rfl⟩ | rfl | rfl
  all_goals exact ⟨_, rfl⟩

/-- Everything that a run puts down is in its directory, or is that directory, the one around it or
the link beside it. -/
lemma place_of_mem_row {e : List Text × FileNode} (he : e ∈ r.row) :
    e = ([r.shelf], .directory) ∨ r.within [] <+: e.1 ∨
      e = ([r.shelf, "latest"], .link r.start.stamp) := by
  have hwithin : ∀ names, r.within [] <+: r.within names := fun names => ⟨names, rfl⟩
  simp only [row, directoryRow, reportRow, documentRow, List.mem_append, List.mem_map,
    List.mem_singleton] at he
  rcases he with (hfront | rfl) | rfl | ⟨d, -, rfl⟩ | rfl | rfl
  · rw [directories_within, List.mem_pair] at hfront
    rcases hfront with rfl | rfl
    · exact .inl rfl
    · exact .inr (.inl (hwithin []))
  · exact .inr (.inl (hwithin _))
  · exact .inr (.inl (hwithin _))
  · exact .inr (.inl (hwithin _))
  · exact .inr (.inl (hwithin _))
  · exact .inr (.inr rfl)

/-- What stands in the directory of a run is put there by runs of that directory only. -/
lemma directory_eq_of_mem_row {other : Run} {names : List Text} {node : FileNode}
    (h : (r.within names, node) ∈ other.row) :
    other.shelf = r.shelf ∧ other.start.stamp = r.start.stamp := by
  rcases place_of_mem_row h with heq | ⟨back, hback⟩ | heq
  · exact nomatch (List.cons.inj (Prod.mk.inj heq).1).2
  · obtain ⟨hshelf, hrest⟩ := List.cons.inj hback
    exact ⟨hshelf, (List.cons.inj hrest).1⟩
  · exact absurd (List.cons.inj (List.cons.inj (Prod.mk.inj heq).1).2).1
      (Moment.stamp_ne_latest r.start)

end Run

end Archive

end StructuredData
