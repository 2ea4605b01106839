import StructuredData.Proofs.Files.Writing

/-!
# What growing a tree changes

Making a directory with those on the way to it makes directories only, at places that paths above
it lead to and where nothing was before (`makesWay_grow`).  The path may lead anywhere, also up, and
the work may end early.  Writing to a file that is to be appended to changes the place of that file.
Together these are the only changes that keeping a log makes (`ChangesOnly`).
-/

namespace StructuredData

namespace FileTree

open StructuredData.Path

variable {t t₁ t' : FileTree} {p : Path} {place : Place} {file : Option Path} {content : Octets}

/-! ## Growing -/

/-- A directory is at the place, which a path or one above it leads to, where nothing was before. -/
structure MadeOnTheWay (t t' : FileTree) (p : Path) (place : Place) : Prop where
  before : t.node? place = none
  after : t'.node? place = some .directory
  leads : ∃ names, names <+: p.names ∧ t'.resolve { p with names := names } = .ok place

/-- From one tree to the other, directories on the way to a path are made, and nothing else is
done. -/
structure MakesWay (t : FileTree) (p : Path) (t' : FileTree) : Prop where
  keeps : KeepsDirectories t t'
  changes : ∀ place, t'.node? place ≠ t.node? place → MadeOnTheWay t t' p place

lemma MakesWay.refl (t : FileTree) (p : Path) : MakesWay t p t :=
  ⟨fun _ h => h, fun _ h => absurd rfl h⟩

/-- First the directories above the path are made, then the rest. -/
lemma MakesWay.trans (h : MakesWay t p.parent t₁) (h' : MakesWay t₁ p t') :
    MakesWay t p t' where
  keeps place hplace := h'.keeps place (h.keeps place hplace)
  changes place hchanged := by
    by_cases hlater : t'.node? place = t₁.node? place
    · have hmade := h.changes place (hlater ▸ hchanged)
      obtain ⟨names, habove, hleads⟩ := hmade.leads
      exact ⟨hmade.before, hlater.trans hmade.after, names,
        habove.trans (List.dropLast_prefix p.names), resolve_of_keepsDirectories h'.keeps hleads⟩
    · have hmade := h'.changes place hlater
      refine ⟨?_, hmade.after, hmade.leads⟩
      -- what is made first is not there to be made later
      by_contra hsome
      have hfirst := h.changes place fun heq => hsome (heq ▸ hmade.before)
      cases hfirst.after.symm.trans hmade.before

lemma makesWay_put (hresolve : t.resolve p = .ok place) (hnone : t.node? place = none) :
    MakesWay t p (t.put place .directory) := by
  have himplicit := isImplicit_of_isFree (isFree_iff.mpr (.inl hnone))
  have hkeeps : KeepsDirectories t (t.put place .directory) := by
    intro other hother
    rw [node?_put himplicit]
    split_ifs
    · rfl
    · exact hother
  refine ⟨hkeeps, fun other hchanged => ?_⟩
  obtain rfl : other = place := by
    by_contra hne
    exact hchanged (node?_put_of_ne t hne .directory)
  exact ⟨hnone, node?_put_self t himplicit .directory, p.names, List.prefix_rfl,
    resolve_of_keepsDirectories hkeeps hresolve⟩

lemma makesWay_makeDirectory (h : t.makeDirectory p = .ok t') : MakesWay t p t' := by
  obtain ⟨place, hresolve, hmade⟩ := Outcome.bind_eq_ok.mp h
  split at hmade
  · next hnone =>
    cases hmade
    exact makesWay_put hresolve hnone
  · cases hmade

lemma makesWay_ensureDirectory (t : FileTree) (p : Path) :
    MakesWay t p (t.grown (t.ensureDirectory p)).1 := by
  unfold ensureDirectory
  split
  · next hmake => exact makesWay_makeDirectory hmake
  · split_ifs
    · exact .refl t p
    · exact .refl t p

lemma makesWay_growWith (t : FileTree) (p : Path) (fuel : ℕ) :
    MakesWay t p (t.growWith p fuel).1 := by
  induction fuel generalizing p with
  | zero => exact makesWay_ensureDirectory t p
  | succ fuel ih =>
    rw [growWith]
    split
    · next hmake => exact makesWay_makeDirectory hmake
    · have habove := ih p.parent
      split
      · next t₁ hgrown =>
        rw [hgrown] at habove
        exact habove.trans (makesWay_ensureDirectory t₁ p)
      · next t₁ fault hgrown =>
        rw [hgrown] at habove
        exact habove.trans (.refl t₁ p)
    · split_ifs
      · exact .refl t p
      · exact .refl t p

theorem makesWay_grow (t : FileTree) (p : Path) : MakesWay t p (t.grow p).1 :=
  makesWay_growWith t p p.names.length

/-! ## Keeping a log -/

lemma exists_put_of_append (hp : p.Readable) (h : t.append p content = .ok t') :
    ∃ place all, t.resolve p = .ok place ∧ t.IsFree place ∧ t' = t.put place (.file all) := by
  have hwrite : ∃ all, t.writeText p.text all = .ok t' := by
    unfold append at h
    split at h
    · exact ⟨_, h⟩
    · split_ifs at h
      exact ⟨_, h⟩
  obtain ⟨all, hall⟩ := hwrite
  obtain ⟨place, hplace, hput⟩ := writeText_eq_ok_iff.mp hall
  obtain ⟨-, hresolve, hfree⟩ := (placeToWrite_eq_ok_iff hp).mp hplace
  exact ⟨place, all, hresolve, hfree, hput⟩

/-- From one tree to the other, nothing has changed but the file at a path, if one is named, and
directories that have been made above it. -/
structure ChangesOnly (t : FileTree) (file : Option Path) (t' : FileTree) : Prop where
  keeps : KeepsDirectories t t'
  changes : ∀ place, t'.node? place ≠ t.node? place →
    ∃ p, file = some p ∧ (t'.resolve p = .ok place ∨ MadeOnTheWay t t' p.parent place)

lemma ChangesOnly.refl (t : FileTree) (file : Option Path) : ChangesOnly t file t :=
  ⟨fun _ h => h, fun _ h => absurd rfl h⟩

lemma changesOnly_of_makesWay (h : MakesWay t p.parent t') : ChangesOnly t (some p) t' :=
  ⟨h.keeps, fun place hchanged => ⟨p, rfl, .inr (h.changes place hchanged)⟩⟩

/-- Writing to the end of the file changes nothing else, and every path still leads where it did. -/
lemma ChangesOnly.append (h : ChangesOnly t (some p) t₁) (hp : p.Readable)
    (happend : t₁.append p content = .ok t') : ChangesOnly t (some p) t' := by
  obtain ⟨log, all, hresolve, hfree, rfl⟩ := exists_put_of_append hp happend
  have hkeeps := keepsDirectories_put hfree all
  refine ⟨fun place hplace => hkeeps place (h.keeps place hplace), fun place hchanged => ?_⟩
  refine ⟨p, rfl, ?_⟩
  by_cases hlog : place = log
  · subst hlog
    exact .inl (resolve_of_keepsDirectories hkeeps hresolve)
  · have hnode := node?_put_of_ne t₁ hlog (.file all)
    obtain ⟨_, ⟨⟩, hleads⟩ := h.changes place (hnode ▸ hchanged)
    refine hleads.imp (resolve_of_keepsDirectories hkeeps) fun hmade => ?_
    obtain ⟨names, habove, hnames⟩ := hmade.leads
    exact ⟨hmade.before, hnode.trans hmade.after, names, habove,
      resolve_of_keepsDirectories hkeeps hnames⟩

end FileTree

end StructuredData
