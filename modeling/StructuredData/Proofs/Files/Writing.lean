import StructuredData.Proofs.Files.JsonFiles
import StructuredData.Proofs.Files.Making

/-!
# Files that are written

A file can be written where nothing but a file is, and whether it can does not depend on what is
written (`placeToWrite_eq_ok_iff`).  What is written is then what the path gives
(`readText_of_writeText`), for directories stay directories, so that the path still leads to the
same place.
-/

namespace StructuredData

namespace FileTree

open StructuredData.Path

variable {t t' : FileTree} {p : Path} {place : Place} {content : Octets}

/-- At the place is a file or nothing. -/
def IsFree (t : FileTree) (place : Place) : Prop :=
  ∀ node, t.node? place = some node → ∃ content, node = .file content

lemma isImplicit_of_isFree (h : t.IsFree place) : isImplicit place = false := by
  by_contra himplicit
  have hdirectory : t.node? place = some .directory := by
    rw [node?, if_pos (by simpa using himplicit)]
  obtain ⟨content, hcontent⟩ := h _ hdirectory
  cases hcontent

lemma isFree_iff :
    t.IsFree place ↔ t.node? place = none ∨ ∃ content, t.node? place = some (.file content) := by
  unfold IsFree
  cases t.node? place with
  | none => simp
  | some node => simp

/-- A path without names leads to a directory, and not to a file. -/
lemma placeToWrite_of_no_names (hnames : p.names = []) : t.placeToWrite p.text ≠ .ok place := by
  obtain ⟨start, names⟩ := p
  obtain rfl : names = [] := hnames
  intro h
  cases start <;> cases h

lemma placeToWrite_eq_ok_iff (hp : p.Readable) :
    t.placeToWrite p.text = .ok place ↔
      p.names ≠ [] ∧ t.resolve p = .ok place ∧ t.IsFree place := by
  by_cases hnames : p.names = []
  · simp [hnames, placeToWrite_of_no_names hnames]
  · rw [placeToWrite_text hp hnames, Outcome.bind_eq_ok]
    constructor
    · rintro ⟨found, hresolve, hfree⟩
      split at hfree
      · next hnode =>
        cases hfree
        exact ⟨hnames, hresolve, isFree_iff.mpr (.inl hnode)⟩
      · next hnode =>
        cases hfree
        exact ⟨hnames, hresolve, isFree_iff.mpr (.inr ⟨_, hnode⟩)⟩
      · cases hfree
    · rintro ⟨-, hresolve, hfree⟩
      refine ⟨place, hresolve, ?_⟩
      rcases isFree_iff.mp hfree with hnode | ⟨content, hnode⟩
      · rw [hnode]
      · rw [hnode]

lemma writeText_eq_ok_iff {path : Text} :
    t.writeText path content = .ok t' ↔
      ∃ place, t.placeToWrite path = .ok place ∧ t' = t.put place (.file content) := by
  unfold writeText naming
  rw [Outcome.mapError_eq_ok, Outcome.bind_pure_eq_ok]
  simp only [eq_comm]

/-! ## What is left -/

lemma keepsDirectories_put (h : t.IsFree place) (content : Octets) :
    KeepsDirectories t (t.put place (.file content)) := by
  intro other hother
  rw [node?_put (isImplicit_of_isFree h)]
  split_ifs with heq
  · obtain ⟨before, hbefore⟩ := h _ (heq ▸ hother)
    cases hbefore
  · exact hother

/-- The path of a file that was written leads to it, and gives what was written. -/
lemma readText_of_writeText (hp : p.Readable) (hwrite : t.writeText p.text content = .ok t') :
    t'.isFile p = true ∧ t'.readText p.text = .ok content := by
  obtain ⟨place, hplace, rfl⟩ := writeText_eq_ok_iff.mp hwrite
  obtain ⟨hnames, hresolve, hfree⟩ := (placeToWrite_eq_ok_iff hp).mp hplace
  have hafter := resolve_of_keepsDirectories (keepsDirectories_put hfree content) hresolve
  have hnode := node?_put_self t (isImplicit_of_isFree hfree) (.file content)
  refine ⟨?_, readText_text hp hnames hafter hnode⟩
  simp [isFile, find?, hafter, hnode]

end FileTree

/-! ## Making the directory first -/

namespace Filing

variable {ε : Type} {t t' : FileTree} {path : Text} {content : Octets} {wrap : FileFault → ε}

lemma on_writeText_eq_ok_iff :
    (writeText path content wrap).on t = (.ok (), t') ↔
      ∃ made place, t.grow (Path.ofText path).parent = (made, none) ∧
        made.placeToWrite path = .ok place ∧ t' = made.put place (.file content) := by
  unfold writeText
  rw [on_bind_eq_ok]
  simp only [on_step]
  constructor
  · rintro ⟨_, made, hmake, hstep⟩
    have hgrow := on_makeDirectories_eq_ok.mp hmake
    split at hstep
    · next after hwrite =>
      cases hstep
      obtain ⟨place, hplace, hput⟩ := FileTree.writeText_eq_ok_iff.mp hwrite
      exact ⟨made, place, hgrow, hplace, hput⟩
    · cases hstep
  · rintro ⟨made, place, hgrow, hplace, rfl⟩
    refine ⟨(), made, on_makeDirectories_eq_ok.mpr hgrow, ?_⟩
    rw [FileTree.writeText_eq_ok_iff.mpr ⟨place, hplace, rfl⟩]

/-- Some file can be written at the path, its directory being made if need be. -/
def CanWrite (t : FileTree) (path : Text) : Prop :=
  ∃ (content : Octets) (t' : FileTree), (writeText path content id).on t = (.ok (), t')

/-- Where one text can be written, every text can, and is read from there. -/
lemma exists_written {p : Path} (hp : p.Readable) (h : CanWrite t p.text) (content : Octets) :
    ∃ t', (writeText p.text content id).on t = (.ok (), t') ∧
      t'.isFile p = true ∧ t'.readText p.text = .ok content := by
  obtain ⟨_, _, hwrite⟩ := h
  obtain ⟨made, place, hgrow, hplace, -⟩ := on_writeText_eq_ok_iff.mp hwrite
  exact ⟨_, on_writeText_eq_ok_iff.mpr ⟨made, place, hgrow, hplace, rfl⟩,
    FileTree.readText_of_writeText hp
      (FileTree.writeText_eq_ok_iff.mpr ⟨place, hplace, rfl⟩)⟩

end Filing

end StructuredData
