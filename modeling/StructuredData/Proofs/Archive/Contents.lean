import StructuredData.Proofs.Archive.Runs
import StructuredData.Proofs.Files.WrittenValues
import StructuredData.Proofs.Page.Written

/-!
# What the directory of a run holds

The directory of a saved run holds its report, its summary and a directory of documents, with a file
for each of its documents.  Nothing is cleared away before, so that the directory of documents also
holds the files that earlier runs of the same label and second have left there.
-/

namespace StructuredData

namespace Archive

open StructuredData.Path FileTree Filing

variable {base : Path} {b : Place} {t t' : FileTree} {r other : Run} {runs : List Run}
  {name : Text} {node : FileNode}

namespace Run

/-- What stands at the top of the directory of a run. -/
def topNodes (r : Run) : List (Text × FileNode) :=
  [("documents", .directory), ("report.json", written (reportValue r.report r.now)),
    ("summary.txt", .file (Utf8.octets (summary r.report r.now)))]

/-- The same with the texts as far as they can be encoded. -/
def topRow (r : Run) : List (Text × FileNode) :=
  [("documents", .directory),
    ("report.json", writtenTexts (Json.pieces 0 (reportValue r.report r.now))),
    ("summary.txt", writtenTexts (summaryPieces r.report r.now))]

/-- The files of the documents of a run. -/
def documentFiles (r : Run) : List (Text × FileNode) :=
  r.report.documents.zipIdx.map fun d => (fileName d, written d.1.toValue)

/-- The run has the same directory as another. -/
def SharesDirectory (other r : Run) : Prop :=
  other.shelf = r.shelf ∧ other.start.stamp = r.start.stamp

/-- What a saved run leaves in its directory, where it may have found something.  At the top stand
its report, its summary and the directory of documents, and nothing else.  The documents have their
files, beside those that were there before.  What was given as text can be read back where a value
may nest six levels deep, and the file of each document then gives its entry in the report. -/
structure Contents (r : Run) (base : Path) (b : Place) (t t' : FileTree) : Prop where
  top : ∀ name, IsName name → ∀ node,
    t'.node? (b ++ r.within [name]) = some node ↔ (name, node) ∈ r.topNodes
  documents : ∀ name node,
    t'.node? (b ++ r.within ["documents", name]) = some node ↔
      (name, node) ∈ r.documentFiles ∨ (name ∉ r.documentFiles.map Prod.fst ∧
        t.node? (b ++ r.within ["documents", name]) = some node)
  reads : r.report.IsTextual → ∀ depth, 6 ≤ depth → ∃ ms,
    t'.readJson depth (base.below (r.within ["report.json"])).text = .ok (.object ms) ∧
    Members.get? "documents" ms = some (.array (r.report.documents.map ValidatedDocument.toValue)) ∧
    ∀ d ∈ r.report.documents.zipIdx,
      t'.readJson depth (base.below (r.within ["documents", fileName d])).text = .ok d.1.toValue

/-! ## Nodes in the directory of a run -/

lemma mem_row_top_iff : (r.within [name], node) ∈ r.row ↔ (name, node) ∈ r.topRow := by
  have hdocument : (r.within [name], node) ∉ r.documentRow :=
    fun h => nomatch length_of_mem_documentRow h
  have hlatest := Moment.stamp_ne_latest r.start
  simp only [row, directoryRow, directories_within, reportRow, List.mem_append, hdocument]
  simp [within, topRow]

lemma names_topRow (r : Run) :
    r.topRow.map Prod.fst = ["documents", "report.json", "summary.txt"] := rfl

lemma topRow_eq (h : r.IsEncodable) : r.topRow = r.topNodes := by
  rw [topRow, h.writtenTexts_eq.1, h.writtenTexts_eq.2, topNodes]

lemma mem_row_documents_iff :
    (r.within ["documents", name], node) ∈ r.row ↔ (name, node) ∈ r.documentFiles := by
  simp only [row, directoryRow, directories_within, reportRow, List.mem_append]
  simp [within, documentRow, documentFiles]

lemma within_eq (h : other.SharesDirectory r) (names : List Text) :
    other.within names = r.within names := by
  rw [within, within, h.1, h.2]

lemma nodup_documentFiles (r : Run) : (r.documentFiles.map Prod.fst).Nodup := by
  have hnames : r.documentFiles.map Prod.fst = r.report.documents.zipIdx.map fileName := by
    simp [documentFiles]
  rw [hnames]
  exact nodup_fileNames _

/-! ## Reading the files of a run -/

lemma plain_reportValue (h : r.report.IsTextual) : (reportValue r.report r.now).Plain 6 := by
  refine .object ?_ (List.forall_mem_append.mpr ⟨PageReport.plain_members h, ?_⟩)
  · change ([("errors" : Text), "warnings", "info", "recommendations", "documents", "pageFindings",
      "generated_at"] : List Text).Nodup
    decide
  · exact List.forall_mem_singleton.mpr (.string _ _)

/-- What a run has written reads as it was written. -/
lemma readJson_of_gains (hstands : Stands t base b) (hgains : Gains t base b r.row t')
    {q : List Text} {v : Value} {depth : ℕ} (hmem : (q, written v) ∈ r.row) (hv : v.Plain depth)
    (hencodable : Json.IsEncodable v) : t'.readJson depth (base.below q).text = .ok v := by
  obtain ⟨hne, hnames⟩ := r.isRow_row _ hmem
  have hread := readText_text (readable_below hstands.readable hnames) (names_below_ne_nil hne)
    (hgains.resolve q _ hmem) (node?_of_mem_row hgains hmem)
  exact readJson_pretty hv hencodable hread

/-! ## The directory of a saved run -/

lemma node?_top_iff (hholds : HoldsOnly t' base b runs) (hgains : Gains t base b r.row t')
    (hname : IsName name) :
    t'.node? (b ++ r.within [name]) = some node ↔ (name, node) ∈ r.topRow := by
  constructor
  · intro hnode
    -- whichever run has put it there, it is one of three names, and this run has them all
    obtain ⟨other, -, hother⟩ := hholds.origin (r.within [name])
      (isName_within (List.forall_mem_singleton.mpr hname)) (List.cons_ne_nil _ _) node hnode
    rw [← within_eq (directory_eq_of_mem_row hother), mem_row_top_iff] at hother
    have hnames := List.mem_map_of_mem (f := Prod.fst) hother
    rw [names_topRow, ← names_topRow r] at hnames
    obtain ⟨⟨_, own⟩, hown, rfl⟩ := List.mem_map.mp hnames
    have hsame := node?_of_mem_row hgains (mem_row_top_iff.mpr hown)
    rw [hnode] at hsame
    rwa [Option.some.inj hsame]
  · exact fun hmem => node?_of_mem_row hgains (mem_row_top_iff.mpr hmem)

lemma node?_documents_iff (hgains : Gains t base b r.row t') :
    t'.node? (b ++ r.within ["documents", name]) = some node ↔
      (name, node) ∈ r.documentFiles ∨ (name ∉ r.documentFiles.map Prod.fst ∧
        t.node? (b ++ r.within ["documents", name]) = some node) := by
  have hput : ∀ own, (name, own) ∈ r.documentFiles →
      t'.node? (b ++ r.within ["documents", name]) = some own := fun own hown =>
    node?_of_mem_row hgains (mem_row_documents_iff.mpr hown)
  by_cases hnames : name ∈ r.documentFiles.map Prod.fst
  · obtain ⟨⟨_, own⟩, hown, rfl⟩ := List.mem_map.mp hnames
    constructor
    · intro hnode
      rw [hput own hown] at hnode
      rw [← Option.some.inj hnode]
      exact .inl hown
    · exact fun h => hput node (h.resolve_right fun hleft => hleft.1 hnames)
  · have hnone : ∀ own, (name, own) ∉ r.documentFiles := fun own hown =>
      hnames (List.mem_map_of_mem (f := Prod.fst) hown)
    rw [node?_of_gains List.prefix_rfl hgains fun own hmem =>
      hnone own (mem_row_documents_iff.mp hmem)]
    exact ⟨fun h => .inr ⟨hnames, h⟩, fun h => (h.resolve_left (hnone node)).2⟩

lemma contents_perform (hholds : HoldsOnly t base b runs)
    (hsaved : ((r.perform base).on t).1 = .ok ()) :
    r.Contents base b t ((r.perform base).on t).2 := by
  obtain ⟨done, -, hgains, hall⟩ := r.gains_perform hholds.stands
  have hencodable := isEncodable_of_perform hsaved
  rw [hall.mp hsaved] at hgains
  refine ⟨fun name hname node => ?_, fun name node => node?_documents_iff hgains,
    fun htextual depth hdepth => ?_⟩
  · rw [← topRow_eq hencodable]
    exact node?_top_iff (hholds.perform r) hgains hname
  have hreport : (r.within ["report.json"], written (reportValue r.report r.now)) ∈ r.row := by
    rw [written_eq hencodable.report]
    exact List.mem_append_right _ List.mem_cons_self
  refine ⟨_, readJson_of_gains hholds.stands hgains hreport
    ((plain_reportValue htextual).mono hdepth) hencodable.report, rfl, fun d hd => ?_⟩
  have hdocument : (r.within ["documents", fileName d], written d.1.toValue) ∈ r.row :=
    mem_row_documents_iff.mpr (List.mem_map_of_mem hd)
  have hmem : d.1 ∈ r.report.documents := List.fst_mem_of_mem_zipIdx hd
  have hplain := ValidatedDocument.plain_toValue (htextual d.1 hmem)
  exact readJson_of_gains hholds.stands hgains hdocument
    (hplain.mono (Nat.le_trans (by decide) hdepth)) (hencodable.document hmem)

end Run

/-! ## What earlier runs leave -/

/-- What is somewhere is never taken away. -/
lemma node?_putRow_ne_none {row : List (List Text × FileNode)} (hrow : IsRow row) {place : Place}
    (hnode : t.node? place ≠ none) : (t.putRow b row).node? place ≠ none := by
  induction row generalizing t with
  | nil => exact hnode
  | cons e row ih =>
    obtain ⟨⟨hne, hnames⟩, hrow⟩ := List.forall_mem_cons.mp hrow
    refine ih hrow ?_
    rw [node?_put (isImplicit_below hnames hne b)]
    split_ifs
    · exact Option.some_ne_none _
    · exact hnode

/-- Runs never take away what an archive holds. -/
lemma node?_after_ne_none (hstands : Stands t base b) (runs : List Run) {place : Place}
    (hnode : t.node? place ≠ none) : (after base t runs).node? place ≠ none := by
  induction runs generalizing t with
  | nil => exact hnode
  | cons r runs ih =>
    obtain ⟨done, hdone, hgains, -⟩ := r.gains_perform hstands
    refine ih (hstands.mono hgains.keeps) ?_
    rw [hgains.node?]
    exact node?_putRow_ne_none (r.isRow_row.of_front hdone) hnode

/-- The documents of a saved run stay in its directory. -/
lemma documents_after (hstands : Stands t base b)
    (hsaved : ((other.perform base).on t).1 = .ok ()) (hshares : other.SharesDirectory r)
    (later : List Run) {file : Text × FileNode} (hfile : file ∈ other.documentFiles) :
    (after base t (other :: later)).node? (b ++ r.within ["documents", file.1]) ≠ none := by
  obtain ⟨done, -, hgains, hall⟩ := other.gains_perform hstands
  rw [hall.mp hsaved] at hgains
  refine node?_after_ne_none (hstands.mono hgains.keeps) later ?_
  rw [← Run.within_eq hshares,
    Run.node?_of_mem_row hgains (Run.mem_row_documents_iff.mpr hfile)]
  exact Option.some_ne_none _

/-- Below a base that was made and is bare, the directory of a saved run has its report, its summary
and its documents, each of them in a file of its own.  Beside them stand files of documents of
earlier runs of the same label and second, and only those: a run that shares its directory with a
saved one never clears away what it does not replace. -/
theorem saved_contents {written : Text} {t₀ t₁ : FileTree}
    (hmake : (makeBase (Path.ofText written)).on t₀ = (.ok (), t₁)) :
    ∃ b, t₁.resolve (Path.ofText written) = .ok b ∧
      (IsBare t₁ b → ∀ (runs : List Run) (r : Run),
        let t := after (Path.ofText written) t₁ runs
        let outcome := (r.perform (Path.ofText written)).on t
        outcome.1 = .ok () →
          r.Contents (Path.ofText written) b t outcome.2 ∧
          (r.documentFiles.map Prod.fst).Nodup ∧
          (∀ name, IsName name → ∀ node,
            t.node? (b ++ r.within ["documents", name]) = some node →
              ∃ other ∈ runs, other.SharesDirectory r ∧ (name, node) ∈ other.documentFiles) ∧
          ∀ first other later, runs = first ++ other :: later →
            ((other.perform (Path.ofText written)).on
              (after (Path.ofText written) t₁ first)).1 = .ok () →
            other.SharesDirectory r → ∀ file ∈ other.documentFiles,
              outcome.2.node? (b ++ r.within ["documents", file.1]) ≠ none) := by
  obtain ⟨b, hstands⟩ := exists_stands_of_makeBase hmake
  refine ⟨b, hstands.resolve, fun hbare runs r hsaved => ?_⟩
  have hholds := holdsOnly_after hstands hbare runs
  refine ⟨Run.contents_perform hholds hsaved, r.nodup_documentFiles,
    fun name hname node hnode => ?_,
    fun first other later hruns hother hshares file hfile => ?_⟩
  · obtain ⟨other, hmem, hrow⟩ := hholds.origin (r.within ["documents", name])
      (Run.isName_within (List.forall_mem_cons.mpr
        ⟨Run.isName_fixed _ (by decide), List.forall_mem_singleton.mpr hname⟩))
      (List.cons_ne_nil _ _) node hnode
    have hshares : other.SharesDirectory r := Run.directory_eq_of_mem_row hrow
    rw [← Run.within_eq hshares, Run.mem_row_documents_iff] at hrow
    exact ⟨other, hmem, hshares, hrow⟩
  · have hfirst := (holdsOnly_after hstands hbare first).stands
    have hlater := documents_after hfirst hother hshares (later ++ [r]) hfile
    rwa [← List.cons_append, ← after_append, ← List.append_assoc, ← hruns, after_concat] at hlater

/-- A run of the same label and second as another, for a page of two documents. -/
def pairRun : Run :=
  let first := homeRun 5
  { first with report := { first.report with
      documents := first.report.documents ++ [⟨.ofTexts "Article" "\x7b\x7d", .empty⟩] } }

theorem pairRun_contents :
    let t := after (Path.ofText "reports") bareTree [pairRun]
    let outcome := ((homeRun 5).perform (Path.ofText "reports")).on t
    (makeBase (Path.ofText "reports")).on .empty = (.ok (), bareTree) ∧ outcome.1 = .ok () ∧
      (homeRun 5).Contents (Path.ofText "reports") ["reports"] t outcome.2 ∧
      ∀ file ∈ pairRun.documentFiles,
        outcome.2.node? (("reports" : Text) :: (homeRun 5).within ["documents", file.1]) ≠
          none := by
  have hmake : (makeBase (Path.ofText "reports")).on .empty = (.ok (), bareTree) := rfl
  have hplace : bareTree.resolve (Path.ofText "reports") = .ok ["reports"] := rfl
  have hfirst : ((pairRun.perform (Path.ofText "reports")).on bareTree).1.toOption = some () := by
    decide +kernel
  have hsecond : (((homeRun 5).perform (Path.ofText "reports")).on
      (after (Path.ofText "reports") bareTree [pairRun])).1.toOption = some () := by
    decide +kernel
  obtain ⟨b, hb, hruns⟩ := saved_contents hmake
  obtain rfl := Except.ok.inj (hplace.symm.trans hb)
  have hsaved := Outcome.eq_ok_of_toOption hsecond
  obtain ⟨hcontents, -, -, hleft⟩ := hruns isBare_bareTree [pairRun] (homeRun 5) hsaved
  exact ⟨hmake, hsaved, hcontents, hleft [] pairRun [] rfl (Outcome.eq_ok_of_toOption hfirst)
    ⟨rfl, rfl⟩⟩

theorem pairRun_leftover :
    let outcome := ((homeRun 5).perform (Path.ofText "reports")).on
      (after (Path.ofText "reports") bareTree [pairRun])
    outcome.1 = .ok () ∧ (homeRun 5).documentFiles.length = 1 ∧
      ∃ name,
        outcome.2.node? (("reports" : Text) :: (homeRun 5).within ["documents", name]) ≠ none ∧
        name ∉ (homeRun 5).documentFiles.map Prod.fst := by
  have hsaved : (((homeRun 5).perform (Path.ofText "reports")).on
      (after (Path.ofText "reports") bareTree [pairRun])).1.toOption = some () := by
    decide +kernel
  have hleft : (((homeRun 5).perform (Path.ofText "reports")).on
      (after (Path.ofText "reports") bareTree [pairRun])).2.node?
        (("reports" : Text) :: (homeRun 5).within ["documents", "01_Article.json"]) ≠ none := by
    decide +kernel
  have hforeign : ("01_Article.json" : Text) ∉ (homeRun 5).documentFiles.map Prod.fst := by
    decide +kernel
  exact ⟨Outcome.eq_ok_of_toOption hsaved, by decide +kernel, "01_Article.json", hleft, hforeign⟩

end Archive

end StructuredData
