import StructuredData.Proofs.Archive.History

/-!
# When a run is saved

In an archive that holds only what its runs have put there, nothing stands in the way of a further
run: it is saved if its documents are declared by text, its names and paths are short enough and its
texts can be encoded.  What the runs before have left there, a link or files of the same names, is
replaced.

None of the texts can be missing: a run whose texts cannot all be encoded is not saved
(`Run.isEncodable_of_perform`).
-/

namespace StructuredData

namespace Filing

variable {ε α β : Type} {before during after : FileTree → Prop}

/-- From every tree of one sort the work ends well and leaves a tree of another. -/
def Ends (before : FileTree → Prop) (work : Filing ε α) (after : FileTree → Prop) : Prop :=
  ∀ t, before t → ∃ a t', work.on t = (.ok a, t') ∧ after t'

lemma ends_bind {work : Filing ε α} {next : α → Filing ε β} (h : Ends before work during)
    (hnext : ∀ a t t', work.on t = (.ok a, t') → Ends during (next a) after) :
    Ends before (work >>= next) after := by
  intro t ht
  obtain ⟨a, t', hwork, ht'⟩ := h t ht
  rw [on_bind, hwork]
  exact hnext a t t' hwork t' ht'

lemma ends_pure (a : α) : Ends before (pure a : Filing ε α) before :=
  fun t ht => ⟨a, t, rfl, ht⟩

lemma ends_step {operation : FileTree → Except FileFault FileTree} {wrap : FileFault → ε}
    (h : ∀ t, before t → ∃ t', operation t = .ok t' ∧ after t') :
    Ends before (step operation wrap) after := by
  intro t ht
  obtain ⟨t', hoperation, ht'⟩ := h t ht
  exact ⟨(), t', by rw [on_step, hoperation], ht'⟩

lemma ends_forM {γ : Type} {f : γ → Filing ε Unit} {xs : List γ}
    (h : ∀ x ∈ xs, Ends during (f x) during) : Ends during (xs.forM f) during := by
  induction xs with
  | nil => exact ends_pure ()
  | cons x xs ih =>
    obtain ⟨hx, hxs⟩ := List.forall_mem_cons.mp h
    exact ends_bind hx fun _ _ _ _ => ih hxs

end Filing

namespace Archive

open StructuredData.Path FileTree Filing

variable {base : Path} {b : Place} {t t' : FileTree} {runs : List Run} {r : Run} {p q : List Text}
  {row : List (List Text × FileNode)} {node : FileNode} {content : Octets}

/-- The texts that a run writes. -/
def Run.texts (r : Run) : List Text :=
  Json.pretty (reportValue r.report r.now) :: summary r.report r.now ::
    r.report.documents.map fun d => Json.pretty d.toValue

/-- The texts that a run writes have no half of a surrogate pair. -/
def Run.IsEncodable (r : Run) : Prop := ∀ text ∈ r.texts, ∀ c ∈ text, c.isSurrogate = false

instance (r : Run) : Decidable r.IsEncodable :=
  inferInstanceAs (Decidable (∀ text ∈ r.texts, ∀ c ∈ text, c.isSurrogate = false))

/-- The documents of the run are declared by text, its names and paths are short enough, and its
texts can be encoded. -/
structure Run.IsWritable (base : Path) (r : Run) : Prop where
  labels : ∀ d ∈ r.report.documents, ∃ type, d.submission.label = .string type
  room : ∀ e ∈ r.row, HasRoom base e.1
  encodable : r.IsEncodable

/-- A run is saved only if all its texts can be encoded. -/
lemma Run.isEncodable_of_perform (h : ((r.perform base).on t).1 = .ok ()) : r.IsEncodable := by
  have hperform : (r.perform base).on t = (.ok (), ((r.perform base).on t).2) := Prod.ext h rfl
  obtain ⟨run, t₁, hrun, hsave⟩ := on_bind_eq_ok.mp hperform
  rw [Run.eq_runDirectory_of_makeRun hrun, Run.save_eq] at hsave
  obtain ⟨_, t₂, hreport, hdocuments⟩ := on_bind_eq_ok.mp hsave
  obtain ⟨_, t₃, -, hsummary⟩ := on_bind_eq_ok.mp hdocuments
  obtain ⟨_, t₄, hpieces, -⟩ := on_bind_eq_ok.mp hsummary
  have hvalue := Run.isEncodable_of_saveJson hreport
  refine List.forall_mem_cons.mpr ⟨hvalue, List.forall_mem_cons.mpr ⟨?_, ?_⟩⟩
  · intro c hc
    obtain ⟨piece, hpiece, hc⟩ := List.mem_flatten.mp hc
    exact Utf8.encodeAll_snd_eq_none_iff.mp (on_writeTexts_eq_ok.mp hpieces).1 piece hpiece c hc
  · intro text htext
    obtain ⟨d, hd, rfl⟩ := List.mem_map.mp htext
    exact Run.isEncodable_document hvalue hd

namespace Run.IsEncodable

variable (h : r.IsEncodable)

include h

lemma report : Json.IsEncodable (reportValue r.report r.now) := h _ List.mem_cons_self

lemma encodeAll_summaryPieces :
    Utf8.encodeAll (summaryPieces r.report r.now) =
      (Utf8.octets (summary r.report r.now), none) :=
  Utf8.encodeAll_of fun _ hpiece _ hc =>
    h _ (List.mem_cons_of_mem _ List.mem_cons_self) _ (List.mem_flatten_of_mem hpiece hc)

lemma document {d : ValidatedDocument} (hd : d ∈ r.report.documents) :
    Json.IsEncodable d.toValue :=
  isEncodable_document h.report hd

/-- The texts of a run that can be encoded are written to the end. -/
lemma writtenTexts_eq :
    writtenTexts (Json.pieces 0 (reportValue r.report r.now)) =
        written (reportValue r.report r.now) ∧
      writtenTexts (summaryPieces r.report r.now) =
        .file (Utf8.octets (summary r.report r.now)) := by
  constructor
  · exact (written_eq h.report).symm
  · rw [writtenTexts, h.encodeAll_summaryPieces]

end Run.IsEncodable

/-! ## Archives in which a run is under way -/

/-- Whatever stands in an archive is of the kind that its place is for. -/
lemma HoldsOnly.ofNode (h : HoldsOnly t base b runs) (hmem : (q, node) ∈ r.row)
    {found : FileNode} (hnode : t.node? (b ++ q) = some found) :
    NodeKind.ofNode found = NodeKind.ofNode node := by
  obtain ⟨hne, hnames⟩ := r.isRow_row _ hmem
  obtain ⟨other, -, hother⟩ := h.origin q hnames hne found hnode
  rw [ofNode_of_mem_row hother, ofNode_of_mem_row hmem]

/-- An archive has the directories down to a place. -/
structure Ready (base : Path) (b : Place) (p : List Text) (t : FileTree) : Prop where
  history : ∃ runs, HoldsOnly t base b runs
  made : ∀ front, front <+: p → t.node? (b ++ front) = some .directory

lemma HoldsOnly.ready (h : HoldsOnly t base b runs) : Ready base b [] t := by
  refine ⟨⟨runs, h⟩, fun front hfront => ?_⟩
  rw [List.prefix_nil.mp hfront, List.append_nil]
  exact h.stands.directory

lemma Ready.opens (h : Ready base b p t) (hway : q.dropLast <+: p) (hroom : HasRoom base q) :
    t.Opens b q := by
  rintro front name back rfl
  refine ⟨h.made front ?_, hroom.names name (by simp)⟩
  rw [List.dropLast_append_cons] at hway
  exact (List.prefix_append _ _).trans hway

lemma Ready.gains (h : Ready base b p t) (hrow : row ⊆ r.row) (hgains : Gains t base b row t') :
    Ready base b p t' := by
  obtain ⟨runs, hholds⟩ := h.history
  exact ⟨⟨_, hholds.gains hrow hgains⟩, fun front hfront => hgains.keeps _ (h.made front hfront)⟩

/-! ## The operations of a run -/

lemma ends_savePieces {pieces : List Text} (hpieces : (Utf8.encodeAll pieces).2 = none)
    (hmem : (q, Run.writtenTexts pieces) ∈ r.row) (hroom : HasRoom base q) :
    Ends (Ready base b (r.within ["documents"])) (savePieces (base.below q) pieces)
      (Ready base b (r.within ["documents"])) := by
  obtain ⟨hne, hnames⟩ := r.isRow_row _ hmem
  intro t hready
  obtain ⟨runs, hholds⟩ := hready.history
  have hfree : ∀ node, t.node? (b ++ q) = some node → ∃ content, node = .file content := by
    intro node hnode
    have hkind := hholds.ofNode hmem hnode
    cases node <;> cases hkind
    exact ⟨_, rfl⟩
  have hwrite := write_eq_ok hholds.stands hnames hne
    (hready.opens (Run.dropLast_prefix_of_mem_row hmem) hroom) (hroom.paths q List.prefix_rfl)
    hfree (Utf8.encodeAll pieces).1
  have hgains := gains_of_write hholds.stands hnames hne hwrite
  exact ⟨(), _, on_writeTexts_eq_ok.mpr ⟨hpieces, hwrite⟩,
    hready.gains (List.cons_subset.mpr ⟨hmem, List.nil_subset _⟩) hgains⟩

lemma ends_relink {target : Text} (hmem : (q, .link target) ∈ r.row) (hroom : HasRoom base q) :
    Ends (Ready base b (r.within ["documents"])) (step (·.relink (base.below q) target))
      (Ready base b (r.within ["documents"])) := by
  obtain ⟨hne, hnames⟩ := r.isRow_row _ hmem
  refine ends_step fun t hready => ?_
  obtain ⟨runs, hholds⟩ := hready.history
  have hfree : t.node? (b ++ q) ≠ some .directory := by
    intro hnode
    cases hholds.ofNode hmem hnode
  have hrelink := relink_eq_ok hholds.stands hnames
    (hready.opens (Run.dropLast_prefix_of_mem_row hmem) hroom) (hroom.paths q List.prefix_rfl)
    hfree target
  have hgains := gains_of_relink hholds.stands hnames hne hrelink
  exact ⟨_, hrelink, hready.gains (by simpa using hmem) hgains⟩

lemma eq_directory_of_node? (hholds : HoldsOnly t base b runs) (hmem : (q, .directory) ∈ r.row)
    (hnode : t.node? (b ++ q) = some node) : node = .directory := by
  have hkind := hholds.ofNode hmem hnode
  cases node <;> cases hkind
  rfl

lemma ends_makeDirectories (hrow : directories p ⊆ r.row) (hp : ∀ name ∈ p, IsName name)
    (hroom : HasRoom base p) (wrap : FileFault → Fault) :
    Ends (Ready base b []) (makeDirectories (base.below p) wrap) (Ready base b p) := by
  intro t hready
  obtain ⟨runs, hholds⟩ := hready.history
  obtain ⟨t', hgrow⟩ := grow_isOk hholds.stands hp hroom fun front hfront hne node hnode =>
    eq_directory_of_node? hholds (hrow (mem_directories_of_front hfront hne)) hnode
  obtain ⟨row, -, hgains, hall⟩ := grows_of_grow hholds.stands hp hgrow
  rw [hall.mp rfl] at hgains
  refine ⟨(), t', on_makeDirectories_eq_ok.mpr hgrow, (hready.gains hrow hgains).history, ?_⟩
  intro front hfront
  by_cases hne : front = []
  · rw [hne, List.append_nil]
    exact hgains.keeps b hholds.stands.directory
  · rw [hgains.node?]
    exact node?_of_directories (isRow_directories hp) (fun e he => (mem_directories he).1)
      (mem_directories_of_front hfront hne)

lemma ends_ensureDirectory {name : Text} (hmem : (p ++ [name], .directory) ∈ r.row)
    (hroom : HasRoom base (p ++ [name])) :
    Ends (Ready base b p) (step (·.ensureDirectory (base.below (p ++ [name]))))
      (Ready base b (p ++ [name])) := by
  obtain ⟨hne, hnames⟩ := r.isRow_row _ hmem
  refine ends_step fun t hready => ?_
  obtain ⟨runs, hholds⟩ := hready.history
  have hway : (p ++ [name]).dropLast <+: p := by rw [List.dropLast_concat]
  obtain ⟨t', hensure⟩ := ensureDirectory_isOk hholds.stands hnames (hready.opens hway hroom)
    (hroom.paths _ List.prefix_rfl) fun node => eq_directory_of_node? hholds hmem
  have hgains := (gains_of_ensureDirectory hholds.stands hnames hne hensure).2
  have hready' := hready.gains (r := r) (by simpa using hmem) hgains
  refine ⟨t', hensure, hready'.history, fun front hfront => ?_⟩
  rcases List.prefix_concat_iff.mp hfront with rfl | hfront
  · rw [hgains.node?]
    exact node?_putRow_of_mem (isRow_singleton hnames hne _) (by simp) List.mem_cons_self
  · exact hready'.made front hfront

/-! ## The run as a whole -/

lemma ends_makeRun (hroom : ∀ e ∈ r.row, HasRoom base e.1) :
    Ends (Ready base b []) (makeRun base r.label r.start)
      (Ready base b (r.within ["documents"])) := by
  have hdocuments : (r.within ["documents"], FileNode.directory) ∈ r.row :=
    List.mem_append_left _ (List.mem_append_right _ List.mem_cons_self)
  have hrow : directories (r.within []) ⊆ r.row :=
    fun e he => List.mem_append_left _ (List.mem_append_left _ he)
  have hrun : (r.within [], FileNode.directory) ∈ r.row :=
    hrow (mem_directories_of_front List.prefix_rfl (List.cons_ne_nil _ _))
  rw [Run.makeRun_eq]
  refine ends_bind (ends_makeDirectories hrow r.isName_directory (hroom _ hrun) _)
    fun _ _ _ _ => ?_
  exact ends_bind (ends_ensureDirectory (p := r.within []) hdocuments (hroom _ hdocuments))
    fun _ _ _ _ => ends_pure _

lemma ends_save (h : r.IsWritable base) :
    Ends (Ready base b (r.within ["documents"]))
      (save (runDirectory base r.label r.start) r.report r.now)
      (Ready base b (r.within ["documents"])) := by
  have hrow : ∀ e ∈ r.reportRow, e ∈ r.row := fun e => List.mem_append_right _
  have hdocument : ∀ d ∈ r.report.documents.zipIdx,
      (r.within ["documents", Run.fileName d], Run.written d.1.toValue) ∈ r.row := by
    intro d hd
    exact hrow _ (List.mem_append_right _ (List.mem_append_left _ (List.mem_map_of_mem hd)))
  have hreport := hrow (r.within ["report.json"], _) List.mem_cons_self
  have hsummary := hrow (r.within ["summary.txt"], _)
    (List.mem_append_right _ (List.mem_append_right _ List.mem_cons_self))
  have hlatest := hrow ([r.shelf, "latest"], .link r.start.stamp) (by simp [Run.reportRow])
  have hpieces : ∀ {v : Value}, Json.IsEncodable v → (Utf8.encodeAll (Json.pieces 0 v)).2 = none :=
    fun hv => by rw [Json.encodeAll_pieces hv]
  rw [Run.save_eq]
  refine ends_bind (ends_savePieces (hpieces h.encodable.report) hreport (h.room _ hreport))
    fun _ _ _ _ => ?_
  refine ends_bind (ends_forM fun d hd => ?_) fun _ _ _ _ => ?_
  · have hd' := List.fst_mem_of_mem_zipIdx hd
    obtain ⟨type, hlabel⟩ := h.labels d.1 hd'
    have hmem := hdocument d hd
    rw [Run.written_eq (h.encodable.document hd')] at hmem
    rw [Run.saveDocument_eq r hlabel]
    exact ends_savePieces (hpieces (h.encodable.document hd')) hmem (h.room _ hmem)
  have hend := congrArg Prod.snd h.encodable.encodeAll_summaryPieces
  exact ends_bind (ends_savePieces hend hsummary (h.room _ hsummary)) fun _ _ _ _ =>
    ends_relink hlatest (h.room _ hlatest)

/-- Every run that can be written is saved, whatever runs came before. -/
lemma ends_perform (h : r.IsWritable base) :
    Ends (Ready base b []) (r.perform base) (Ready base b (r.within ["documents"])) := by
  refine ends_bind (ends_makeRun h.room) fun run t t' hrun => ?_
  rw [Run.eq_runDirectory_of_makeRun hrun]
  exact ends_save h

end Archive

end StructuredData
