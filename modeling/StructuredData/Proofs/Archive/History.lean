import StructuredData.Proofs.Archive.Run

/-!
# Runs one after another

An archive starts with nothing below its base, and then holds only what its runs have put there.
Runs agree on what kind of node a place has, so that no run finds a directory where it wants to put
a file or the other way round.
-/

namespace StructuredData

namespace Archive

open StructuredData.Path FileTree Filing

variable {base : Path} {b : Place} {t t' : FileTree} {runs : List Run} {r : Run} {q : List Text}
  {node : FileNode}

/-! ## What a place is for -/

/-- What a node is, whatever it holds. -/
inductive NodeKind
  | file
  | directory
  | link
deriving DecidableEq

namespace NodeKind

/-- The kind of a node. -/
def ofNode : FileNode → NodeKind
  | .file _ => .file
  | .directory => .directory
  | .link _ => .link

/-- The kind of the node at a place below the base of an archive. -/
def ofPlace : List Text → NodeKind
  | [_] => .directory
  | [_, name] => if name = "latest" then .link else .directory
  | [_, _, name] => if name = "documents" then .directory else .file
  | _ => .file

end NodeKind

/-- Every run puts nodes of the same kind at a place. -/
lemma ofNode_of_mem_row (h : (q, node) ∈ r.row) : NodeKind.ofNode node = NodeKind.ofPlace q := by
  have hstamp := Moment.stamp_ne_latest r.start
  simp only [Run.row, Run.directoryRow, Run.directories_within, Run.reportRow, Run.documentRow,
    List.mem_append, List.mem_map, List.mem_cons, List.not_mem_nil, or_false] at h
  rcases h with ((h | h) | h) | h | ⟨d, -, h⟩ | h | h <;> cases h
  · rfl
  · simp [Run.within, NodeKind.ofNode, NodeKind.ofPlace, hstamp]
  all_goals rfl

/-! ## What an archive holds -/

/-- The tree after some runs, saved or not, one after another. -/
def after (base : Path) (t : FileTree) (runs : List Run) : FileTree :=
  runs.foldl (fun t r => ((r.perform base).on t).2) t

lemma after_concat (base : Path) (t : FileTree) (runs : List Run) (r : Run) :
    after base t (runs ++ [r]) = ((r.perform base).on (after base t runs)).2 := by
  simp [after]

lemma after_append (base : Path) (t : FileTree) (runs later : List Run) :
    after base t (runs ++ later) = after base (after base t runs) later :=
  List.foldl_append

/-- Nothing has a name below a place. -/
def IsBare (t : FileTree) (b : Place) : Prop :=
  ∀ q, (∀ name ∈ q, IsName name) → q ≠ [] → t.node? (b ++ q) = none

/-- The base stands, and below it is only what some of the runs put there. -/
structure HoldsOnly (t : FileTree) (base : Path) (b : Place) (runs : List Run) : Prop where
  stands : Stands t base b
  origin : ∀ q, (∀ name ∈ q, IsName name) → q ≠ [] →
    ∀ node, t.node? (b ++ q) = some node → ∃ r ∈ runs, (q, node) ∈ r.row

/-- A base that was made stands. -/
lemma exists_stands_of_makeBase {written : Text}
    (hmake : (makeBase (Path.ofText written)).on t = (.ok (), t')) :
    ∃ b, Stands t' (Path.ofText written) b := by
  unfold makeBase at hmake
  exact exists_stands_of_grow (readable_ofText written) (on_makeDirectories_eq_ok.mp hmake)

lemma holdsOnly_of_isBare (hstands : Stands t base b) (hbare : IsBare t b) :
    HoldsOnly t base b [] := by
  refine ⟨hstands, fun q hq hne node hnode => ?_⟩
  rw [hbare q hq hne] at hnode
  cases hnode

/-- Putting down some nodes of a run adds only what is of that run. -/
lemma HoldsOnly.gains {done : List (List Text × FileNode)} (h : HoldsOnly t base b runs)
    (hdone : done ⊆ r.row) (hgains : Gains t base b done t') :
    HoldsOnly t' base b (runs ++ [r]) := by
  refine ⟨h.stands.mono hgains.keeps, fun q hq hne node hnode => ?_⟩
  rw [hgains.node?] at hnode
  rcases mem_or_of_node?_putRow (fun e he => r.isRow_row e (hdone he)) hnode with
    ⟨e, he, hplace, rfl⟩ | hbefore
  · obtain rfl := List.append_cancel_left hplace
    exact ⟨r, by simp, hdone he⟩
  · obtain ⟨other, hother, hmem⟩ := h.origin q hq hne node hbefore
    exact ⟨other, List.mem_append_left _ hother, hmem⟩

/-- One more run keeps an archive what it is. -/
lemma HoldsOnly.perform (h : HoldsOnly t base b runs) (r : Run) :
    HoldsOnly ((r.perform base).on t).2 base b (runs ++ [r]) := by
  obtain ⟨done, hdone, hgains, -⟩ := r.gains_perform h.stands
  exact h.gains hdone.subset hgains

/-- After any runs, an archive holds only what they put there. -/
lemma holdsOnly_after (hstands : Stands t base b) (hbare : IsBare t b) (runs : List Run) :
    HoldsOnly (after base t runs) base b runs := by
  induction runs using List.reverseRecOn with
  | nil => exact holdsOnly_of_isBare hstands hbare
  | append_singleton runs r ih =>
    rw [after_concat]
    exact ih.perform r

end Archive

end StructuredData
