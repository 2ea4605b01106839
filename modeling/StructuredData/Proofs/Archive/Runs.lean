import StructuredData.Proofs.Archive.Saving

/-!
# Runs that leave each other alone

Whatever runs an archive has seen, a further one changes nothing outside its own directory but the
directory around it and the link beside it.  The runs of other labels and other seconds keep their
directories as they are, and the link always names the run of its label that was saved last.
-/

namespace StructuredData

namespace Archive

open StructuredData.Path FileTree Filing

variable {base : Path} {b : Place} {t t' : FileTree} {r other : Run}
  {done : List (List Text × FileNode)}

/-- What a run does to an archive.  Where something changes, it is the directory of the run or
below it, the directory around it, or the link beside it.  The directory of a run of another label
or another second, and the links of other labels, stay as they are; so does the link of the label
unless the run is saved.  Once it is, the link names its directory, which holds its report. -/
structure Run.Effect (r : Run) (b : Place) (t : FileTree) (saved : Prop) (t' : FileTree) :
    Prop where
  confined : ∀ place, t'.node? place ≠ t.node? place →
    place = b ++ [r.shelf] ∨ b ++ [r.shelf, r.start.stamp] <+: place ∨
      place = b ++ [r.shelf, "latest"]
  apart : r.start.fault? = none → ∀ other : Run, other.start.fault? = none →
    (other.shelf ≠ r.shelf ∨ other.start.toSecond ≠ r.start.toSecond) →
      ∀ names, t'.node? (b ++ other.within names) = t.node? (b ++ other.within names)
  links : ∀ shelf, ¬(saved ∧ shelf = r.shelf) →
    t'.node? (b ++ [shelf, "latest"]) = t.node? (b ++ [shelf, "latest"])
  latest : saved →
    t'.node? (b ++ [r.shelf, "latest"]) = some (.link r.start.stamp) ∧
    t'.node? (b ++ [r.shelf, r.start.stamp]) = some .directory ∧
    t'.node? (b ++ [r.shelf, r.start.stamp, "report.json"]) =
      some (Run.written (reportValue r.report r.now))

/-! ## Nodes of a run -/

lemma node?_of_gains (hdone : done <+: r.row) (hgains : Gains t base b done t') {q : List Text}
    (hq : ∀ node, (q, node) ∉ done) : t'.node? (b ++ q) = t.node? (b ++ q) := by
  rw [hgains.node?]
  refine node?_putRow_of_forall_ne (r.isRow_row.of_front hdone) ?_
  rintro ⟨_, node⟩ he heq
  obtain rfl := List.append_cancel_left heq
  exact hq node he

/-- The directories of two runs of different labels or seconds are apart. -/
lemma not_mem_row_of_apart (hr : r.start.fault? = none) (hother : other.start.fault? = none)
    (hne : other.shelf ≠ r.shelf ∨ other.start.toSecond ≠ r.start.toSecond) (names : List Text)
    (node : FileNode) : (other.within names, node) ∉ r.row := by
  intro hmem
  obtain ⟨hshelf, hstamp⟩ := Run.directory_eq_of_mem_row hmem
  rcases hne with hne | hne
  · exact hne hshelf.symm
  · exact hne (Moment.toSecond_eq_of_stamp_eq hother hr hstamp.symm)

/-- The link comes last of all that a run puts down. -/
lemma eq_row_of_link_mem (hdone : done <+: r.row) {shelf : Text} {node : FileNode}
    (hmem : ([shelf, "latest"], node) ∈ done) : done = r.row ∧ shelf = r.shelf := by
  obtain ⟨hshelf, hnode⟩ : shelf = r.shelf ∧ node = .link r.start.stamp := by
    rcases Run.place_of_mem_row (hdone.subset hmem) with heq | ⟨back, hback⟩ | heq
    · exact nomatch heq
    · exact absurd (List.cons.inj (List.cons.inj hback).2).1 (Moment.stamp_ne_latest r.start)
    · simpa using heq
  obtain ⟨front, hrow⟩ : ∃ front, r.row = front ++ [([r.shelf, "latest"], .link r.start.stamp)] :=
    ⟨_, by simp only [Run.row, Run.reportRow, ← List.append_assoc]; rfl⟩
  have hnodup := r.nodup_row
  rw [hrow] at hdone hnodup ⊢
  refine ⟨(List.prefix_concat_iff.mp hdone).resolve_right fun hfront => ?_, hshelf⟩
  rw [List.map_append, List.nodup_append] at hnodup
  refine hnodup.2.2 _ (List.mem_map_of_mem (hfront.subset hmem)) _ List.mem_cons_self ?_
  rw [hshelf]

/-- One run keeps to its places. -/
lemma effect_perform (r : Run) (hstands : Stands t base b) :
    r.Effect b t (((r.perform base).on t).1 = .ok ()) ((r.perform base).on t).2 := by
  obtain ⟨done, hdone, hgains, hsaved⟩ := r.gains_perform hstands
  refine ⟨fun place hplace => ?_, fun hr other hother hne names => ?_, fun shelf hshelf => ?_,
    fun hok => ?_⟩
  · by_contra hnowhere
    rw [hgains.node?] at hplace
    refine hplace (node?_putRow_of_forall_ne (r.isRow_row.of_front hdone) ?_)
    rintro e he rfl
    refine hnowhere ((Run.place_of_mem_row (hdone.subset he)).imp ?_ (Or.imp ?_ ?_))
    · exact fun heq => by rw [heq]
    · exact (List.prefix_append_right_inj b).mpr
    · exact fun heq => by rw [heq]
  · exact node?_of_gains hdone hgains fun node hmem =>
      not_mem_row_of_apart hr hother hne names node (hdone.subset hmem)
  · refine node?_of_gains hdone hgains fun node hmem => hshelf ?_
    obtain ⟨hwhole, hlabel⟩ := eq_row_of_link_mem hdone hmem
    exact ⟨hsaved.mpr hwhole, hlabel⟩
  · rw [hsaved.mp hok] at hgains
    rw [Run.written_eq (Run.isEncodable_of_perform hok).report]
    refine ⟨Run.node?_of_mem_row hgains ?_, Run.node?_of_mem_row hgains ?_,
      Run.node?_of_mem_row hgains ?_⟩
    · exact List.mem_append_right _ (by simp [Run.reportRow])
    · refine List.mem_append_left _ (List.mem_append_left _ ?_)
      rw [Run.directories_within]
      exact List.mem_cons_of_mem _ List.mem_cons_self
    · exact List.mem_append_right _ List.mem_cons_self

/-! ## All runs of an archive -/

/-- Below a base that was made and is bare, a run keeps to its places whatever runs came before it,
and the link of its label names it once it is saved.  It is saved if its documents are declared by
text, its names and paths are short enough and its texts can be encoded. -/
theorem runs_undisturbed {written : Text} {t₀ t₁ : FileTree}
    (hmake : (makeBase (Path.ofText written)).on t₀ = (.ok (), t₁)) :
    ∃ b, t₁.resolve (Path.ofText written) = .ok b ∧
      (IsBare t₁ b → ∀ (runs : List Run) (r : Run),
        let t := after (Path.ofText written) t₁ runs
        let outcome := (r.perform (Path.ofText written)).on t
        r.Effect b t (outcome.1 = .ok ()) outcome.2 ∧
          (r.IsWritable (Path.ofText written) → outcome.1 = .ok ())) := by
  obtain ⟨b, hstands⟩ := exists_stands_of_makeBase hmake
  refine ⟨b, hstands.resolve, fun hbare runs r => ?_⟩
  have hholds := holdsOnly_after hstands hbare runs
  refine ⟨effect_perform r hholds.stands, fun hwritable => ?_⟩
  obtain ⟨_, _, hrun, -⟩ := ends_perform hwritable _ hholds.ready
  rw [hrun]

/-- A directory for an archive with nothing in it. -/
def bareTree : FileTree := ⟨[(["reports"], .directory)]⟩

/-- A run for a page of one document, at a second of one minute. -/
def homeRun (second : ℕ) : Run where
  label := "home"
  start := ⟨2025, 1, 2, 3, 4, second, 0⟩
  report := ⟨.empty, [], [⟨.ofTexts "Person" "\x7b\x7d", .empty⟩], []⟩
  now := ⟨2025, 1, 2, 3, 4, second, 0⟩

lemma isBare_bareTree : IsBare bareTree ["reports"] := by
  intro q hq hne
  have hother : ([("reports" : Text)] : Place) ≠ [("reports" : Text)] ++ q :=
    fun h => hne (by simpa using h)
  rw [node?, isImplicit_below hq hne, if_neg Bool.false_ne_true, bareTree,
    List.find?_cons_of_neg (by simpa using hother)]
  rfl

lemma homeRun_isWritable : (homeRun 6).IsWritable (Path.ofText "reports") where
  labels := by simp [homeRun, Submission.ofTexts]
  room := by decide +kernel
  encodable := by decide +kernel

theorem homeRuns_undisturbed :
    (makeBase (Path.ofText "reports")).on .empty = (.ok (), bareTree) ∧
    let t := after (Path.ofText "reports") bareTree [homeRun 5]
    let outcome := ((homeRun 6).perform (Path.ofText "reports")).on t
    (homeRun 6).Effect ["reports"] t (outcome.1 = .ok ()) outcome.2 ∧ outcome.1 = .ok () := by
  have hmake : (makeBase (Path.ofText "reports")).on .empty = (.ok (), bareTree) := rfl
  have hplace : bareTree.resolve (Path.ofText "reports") = .ok ["reports"] := rfl
  obtain ⟨b, hb, hruns⟩ := runs_undisturbed hmake
  obtain rfl := Except.ok.inj (hplace.symm.trans hb)
  obtain ⟨heffect, hsaved⟩ := hruns isBare_bareTree [homeRun 5] (homeRun 6)
  exact ⟨hmake, heffect, hsaved homeRun_isWritable⟩

end Archive

end StructuredData
