import Mathlib.Order.Nat
import StructuredData.Proofs.Files.Paths
import StructuredData.Proofs.Outcome
import StructuredData.Proofs.Text.Utf8

/-!
# Places below a directory

A base path that stands for a directory leads to the places below it by names alone: a path below
the base leads there if the directories on the way are there and the names are short enough, and it
never leads anywhere else (`resolve_below`).  What is done below the base only adds to the
directories, so that the base keeps standing where it is.
-/

namespace StructuredData

namespace FileTree

open StructuredData.Path

variable {t t' : FileTree} {base : Path} {b place : Place} {q : List Text} {name : Text}
  {node : FileNode}

/-! ## Following names -/

lemma descend_of_isName (hname : IsName name) : descend place name = place ++ [name] := by
  have hdots := hname.noDots
  simp only [isDots, Bool.or_eq_false_iff, decide_eq_false_iff_not] at hdots
  rw [descend, if_neg hdots.1, if_neg hdots.2]

lemma follow_append (place : Place) (names q : List Text) :
    t.follow place (names ++ q) = t.follow place names >>= fun b => t.follow b q := by
  induction names generalizing place with
  | nil => rfl
  | cons name rest ih =>
    rw [List.cons_append, follow, follow]
    split
    · rfl
    · split_ifs
      · rfl
      · exact ih _
    · rfl

/-- The way down from a place is a row of directories, and the names on it are short enough. -/
def Opens (t : FileTree) (b : Place) (q : List Text) : Prop :=
  ∀ front name back, q = front ++ name :: back →
    t.node? (b ++ front) = some .directory ∧ octetLength name ≤ maxNameLength

lemma opens_nil (b : Place) : t.Opens b [] := by
  intro front name back h
  simp at h

lemma opens_cons :
    t.Opens b (name :: q) ↔
      (t.node? b = some .directory ∧ octetLength name ≤ maxNameLength) ∧
        t.Opens (b ++ [name]) q := by
  constructor
  · intro h
    constructor
    · simpa using h [] name q rfl
    · intro front next back hq
      simpa using h (name :: front) next back (by rw [hq]; rfl)
  · rintro ⟨hfirst, hrest⟩ front next back hq
    cases front with
    | nil =>
      obtain ⟨rfl, rfl⟩ := List.cons.inj hq
      simpa using hfirst
    | cons first front =>
      obtain ⟨rfl, htail⟩ := List.cons.inj hq
      simpa using hrest front next back htail

/-- Names lead to one place only, and do so if the way opens. -/
lemma follow_names_iff (hq : ∀ name ∈ q, IsName name) :
    t.follow b q = .ok place ↔ place = b ++ q ∧ t.Opens b q := by
  induction q generalizing b with
  | nil => simp [follow, opens_nil, eq_comm]
  | cons name rest ih =>
    obtain ⟨hname, hrest⟩ := List.forall_mem_cons.mp hq
    rw [opens_cons, follow, descend_of_isName hname]
    cases hnode : t.node? b with
    | none => simp
    | some node =>
      cases node with
      | directory =>
        dsimp only
        split_ifs with hlong
        · simp [not_le.mpr hlong]
        · simp [ih hrest, not_lt.mp hlong]
      | file content => simp
      | link target => simp

/-! ## Paths for the system -/

/-- A path whose code points can all stand in one is followed if it is short enough. -/
lemma walk_of_points {written : Text} (h : ∀ c ∈ written, IsPoint c) (steps : List Text) :
    t.walk written steps =
      if maxPathLength < octetLength written then .error .nameTooLong
      else t.follow (startPlace (startOf written)) steps := by
  have hencodable : unencodable? written = none :=
    Utf8.refused?_eq_none_iff.mpr fun c hc => (h c hc).2
  have hnull : written.any (fun c => c.val = 0) = false := by
    rw [List.any_eq_false]
    exact fun c hc => by simpa using (h c hc).1
  simp only [walk, hencodable, hnull, Bool.false_eq_true, if_false]

/-- Of any other path the fault is found in the path itself. -/
lemma walk_of_not_points {written : Text} (h : ¬ ∀ c ∈ written, IsPoint c) (steps : List Text) :
    ∃ kind, t.walk written steps = .error kind ∧ kind.isInPath = true := by
  unfold walk
  cases hencodable : unencodable? written with
  | some e => exact ⟨_, rfl, rfl⟩
  | none =>
    refine ⟨.nullCharacter, if_pos ?_, rfl⟩
    push Not at h
    obtain ⟨c, hc, hpoint⟩ := h
    have hzero : c.val = 0 := by
      by_contra hne
      exact hpoint ⟨hne, Utf8.refused?_eq_none_iff.mp hencodable c hc⟩
    exact List.any_eq_true.mpr ⟨c, hc, decide_eq_true hzero⟩

lemma points_of_walk {written : Text} {steps : List Text} (h : t.walk written steps = .ok place) :
    ∀ c ∈ written, IsPoint c := by
  by_contra hnot
  obtain ⟨kind, hwalk, -⟩ := walk_of_not_points (t := t) hnot steps
  cases hwalk.symm.trans h

/-! ## A base and what is below it -/

/-- Everything that is a directory stays one. -/
def KeepsDirectories (t t' : FileTree) : Prop :=
  ∀ place, t.node? place = some .directory → t'.node? place = some .directory

lemma follow_of_keepsDirectories (h : KeepsDirectories t t') {names : List Text} {start : Place}
    (hfollow : t.follow start names = .ok b) : t'.follow start names = .ok b := by
  induction names generalizing start with
  | nil => exact hfollow
  | cons name rest ih =>
    rw [follow] at hfollow ⊢
    split at hfollow
    · cases hfollow
    · next hdirectory =>
      rw [h start hdirectory]
      dsimp only
      split_ifs at hfollow ⊢
      exact ih hfollow
    · cases hfollow

lemma resolve_of_keepsDirectories (h : KeepsDirectories t t') {p : Path}
    (hresolve : t.resolve p = .ok place) : t'.resolve p = .ok place := by
  have hpoints := points_of_walk hresolve
  unfold resolve at hresolve ⊢
  rw [walk_of_points hpoints] at hresolve ⊢
  split_ifs at hresolve ⊢
  exact follow_of_keepsDirectories h hresolve

/-- The written path is short enough for the file system. -/
def Fits (p : Path) : Prop := octetLength p.text ≤ maxPathLength

instance (p : Path) : Decidable (Fits p) := inferInstanceAs (Decidable (_ ≤ _))

/-- The base path leads to the directory at a place. -/
structure Stands (t : FileTree) (base : Path) (b : Place) : Prop where
  readable : base.Readable
  points : ∀ name ∈ base.names, ∀ c ∈ name, IsPoint c
  fits : Fits base
  follow : t.follow (startPlace base.start) base.names = .ok b
  directory : t.node? b = some .directory

lemma Stands.mono (h : Stands t base b) (hkeeps : KeepsDirectories t t') : Stands t' base b :=
  ⟨h.readable, h.points, h.fits, follow_of_keepsDirectories hkeeps h.follow, hkeeps b h.directory⟩

/-- A path below the base is followed from where the base leads, if it is short enough. -/
lemma resolve_eq (h : Stands t base b) (hq : ∀ name ∈ q, IsName name) :
    t.resolve (base.below q) =
      if maxPathLength < octetLength (base.below q).text then .error .nameTooLong
      else t.follow b q := by
  have hreadable := readable_below h.readable hq
  have hpoints : ∀ c ∈ (base.below q).text, IsPoint c := by
    intro c hc
    rcases mem_names_of_mem_text hc with rfl | rfl | ⟨name, hname, hmem⟩
    · decide
    · decide
    · rcases List.mem_append.mp hname with hname | hname
      · exact h.points name hname c hmem
      · exact (hq name hname).points c hmem
  have hfollow : t.follow (startPlace (base.below q).start) (base.below q).names =
      t.follow b q := by
    rw [below, follow_append, h.follow]
    rfl
  rw [resolve, walk_of_points hpoints, startOf_text hreadable, hfollow]

lemma resolve_below (h : Stands t base b) (hq : ∀ name ∈ q, IsName name) :
    t.resolve (base.below q) = .ok place ↔
      place = b ++ q ∧ t.Opens b q ∧ Fits (base.below q) := by
  rw [resolve_eq h hq]
  split_ifs with hlong
  · simp [Fits, hlong]
  · rw [follow_names_iff hq]
    simp [Fits, not_lt.mp hlong]

lemma Stands.resolve (h : Stands t base b) : t.resolve base = .ok b := by
  have hbelow := (resolve_below h (q := []) nofun).mpr
    ⟨rfl, opens_nil b, by rw [below_nil]; exact h.fits⟩
  rwa [below_nil, List.append_nil] at hbelow

/-- A readable path that leads to a directory stands there. -/
lemma stands_of_resolve (hbase : base.Readable) (hresolve : t.resolve base = .ok b)
    (hdirectory : t.node? b = some .directory) : Stands t base b := by
  unfold FileTree.resolve at hresolve
  have hpoints := points_of_walk hresolve
  rw [walk_of_points hpoints, startOf_text hbase] at hresolve
  split_ifs at hresolve with hlong
  exact ⟨hbase, fun name hname c hc => hpoints c (mem_text_of_mem hname hc), not_lt.mp hlong,
    hresolve, hdirectory⟩

/-! ## Nodes put in turn -/

lemma node?_put (hplace : isImplicit place = false) (other : Place) :
    (t.put place node).node? other = if other = place then some node else t.node? other := by
  split_ifs with h
  · rw [h, node?_put_self t hplace]
  · exact node?_put_of_ne t h node

/-- The tree with a row of nodes put below a place in turn. -/
def putRow (t : FileTree) (b : Place) (row : List (List Text × FileNode)) : FileTree :=
  row.foldl (fun t e => t.put (b ++ e.1) e.2) t

/-- Places below a base are not those that are always there. -/
lemma isImplicit_below (hq : ∀ name ∈ q, IsName name) (hne : q ≠ []) (b : Place) :
    isImplicit (b ++ q) = false := by
  obtain ⟨front, name, rfl⟩ := (List.eq_nil_or_concat q).resolve_left hne
  have hname := hq name (by simp)
  have hdots : name ≠ ".." := by
    intro h
    have hnoDots := hname.noDots
    simp [isDots, h] at hnoDots
  have hroot : name ≠ "/" := by
    rintro rfl
    exact hname.noSlash (by decide)
  rw [List.concat_eq_append, ← List.append_assoc]
  have hlast : ∀ row : List Text, b ++ front ++ [name] = row → row.getLast? = some name := by
    rintro row rfl
    simp
  simp only [isImplicit, Bool.or_eq_false_iff, List.all_eq_false, decide_eq_true_eq,
    decide_eq_false_iff_not]
  refine ⟨⟨name, by simp, hdots⟩, fun h => hroot ?_⟩
  exact (Option.some.inj (hlast _ h)).symm

/-- Rows of names that can be put below a base. -/
def IsRow (row : List (List Text × FileNode)) : Prop :=
  ∀ e ∈ row, e.1 ≠ [] ∧ ∀ name ∈ e.1, IsName name

variable {row row' : List (List Text × FileNode)}

lemma IsRow.of_front {done : List (List Text × FileNode)} (hrow : IsRow row)
    (hdone : done <+: row) : IsRow done :=
  fun e he => hrow e (hdone.subset he)

lemma isRow_append_iff : IsRow (row ++ row') ↔ IsRow row ∧ IsRow row' :=
  List.forall_mem_append

lemma isRow_append (hrow : IsRow row) (hrow' : IsRow row') : IsRow (row ++ row') :=
  isRow_append_iff.mpr ⟨hrow, hrow'⟩

lemma isRow_singleton (hq : ∀ name ∈ q, IsName name) (hne : q ≠ []) (node : FileNode) :
    IsRow [(q, node)] :=
  List.forall_mem_singleton.mpr ⟨hne, hq⟩

lemma node?_putRow_congr (hrow : IsRow row) (h : ∀ place, t.node? place = t'.node? place)
    (place : Place) : (t.putRow b row).node? place = (t'.putRow b row).node? place := by
  induction row generalizing t t' with
  | nil => exact h place
  | cons e row ih =>
    obtain ⟨⟨hne, hnames⟩, hrow⟩ := List.forall_mem_cons.mp hrow
    refine ih hrow fun other => ?_
    rw [node?_put (isImplicit_below hnames hne b), node?_put (isImplicit_below hnames hne b), h]

/-- Where the row puts nothing, nothing changes. -/
lemma node?_putRow_of_forall_ne (hrow : IsRow row) (hplace : ∀ e ∈ row, place ≠ b ++ e.1) :
    (t.putRow b row).node? place = t.node? place := by
  induction row generalizing t with
  | nil => rfl
  | cons e row ih =>
    obtain ⟨⟨hne, hnames⟩, hrow⟩ := List.forall_mem_cons.mp hrow
    obtain ⟨hfirst, hrest⟩ := List.forall_mem_cons.mp hplace
    have hput := ih (t := t.put (b ++ e.1) e.2) hrow hrest
    rwa [node?_put (isImplicit_below hnames hne b), if_neg hfirst] at hput

/-- Every place of a row whose places are distinct holds what the row puts there. -/
lemma node?_putRow_of_mem (hrow : IsRow row) (hnodup : (row.map Prod.fst).Nodup)
    (hmem : (q, node) ∈ row) : (t.putRow b row).node? (b ++ q) = some node := by
  induction row generalizing t with
  | nil => cases hmem
  | cons e row ih =>
    obtain ⟨⟨hne, hnames⟩, hlater⟩ := List.forall_mem_cons.mp hrow
    obtain ⟨hfirst, hrest⟩ := List.nodup_cons.mp hnodup
    rcases List.mem_cons.mp hmem with rfl | hmem
    · have hothers : ∀ e ∈ row, b ++ q ≠ b ++ e.1 := by
        intro e he heq
        exact hfirst (List.mem_map.mpr ⟨e, he, (List.append_cancel_left heq).symm⟩)
      have hput := node?_putRow_of_forall_ne (t := t.put (b ++ q) node) hlater hothers
      rwa [node?_put (isImplicit_below hnames hne b), if_pos rfl] at hput
    · exact ih hlater hrest hmem

/-- Whatever stands somewhere after the row was put there, or stood there before. -/
lemma mem_or_of_node?_putRow (hrow : IsRow row)
    (hnode : (t.putRow b row).node? place = some node) :
    (∃ e ∈ row, place = b ++ e.1 ∧ e.2 = node) ∨ t.node? place = some node := by
  induction row generalizing t with
  | nil => exact .inr hnode
  | cons e row ih =>
    obtain ⟨⟨hne, hnames⟩, hrow⟩ := List.forall_mem_cons.mp hrow
    rcases ih hrow hnode with ⟨f, hf, hplace⟩ | hbefore
    · exact .inl ⟨f, List.mem_cons_of_mem _ hf, hplace⟩
    · rw [node?_put (isImplicit_below hnames hne b)] at hbefore
      split_ifs at hbefore with hplace
      · exact .inl ⟨e, List.mem_cons_self, hplace, Option.some.inj hbefore⟩
      · exact .inr hbefore

/-! ## What work below a base leaves -/

/-- What a row of operations below a base does when it puts down the nodes of a row in turn: what
was there before stays unless it is replaced, and directories stay directories.  The paths of the
files lead to them. -/
structure Gains (t : FileTree) (base : Path) (b : Place) (row : List (List Text × FileNode))
    (t' : FileTree) : Prop where
  node? : ∀ place, t'.node? place = (t.putRow b row).node? place
  keeps : KeepsDirectories t t'
  resolve : ∀ q content, (q, .file content) ∈ row → t'.resolve (base.below q) = .ok (b ++ q)

lemma Gains.refl (t : FileTree) : Gains t base b [] t := ⟨fun _ => rfl, fun _ h => h, nofun⟩

lemma resolve_mono (h : Stands t base b) (hkeeps : KeepsDirectories t t')
    (hq : ∀ name ∈ q, IsName name) (hresolve : t.resolve (base.below q) = .ok place) :
    t'.resolve (base.below q) = .ok place := by
  obtain ⟨rfl, hopens, hfits⟩ := (resolve_below h hq).mp hresolve
  refine (resolve_below (h.mono hkeeps) hq).mpr ⟨rfl, fun front name back hsplit => ?_, hfits⟩
  exact (hopens front name back hsplit).imp_left (hkeeps _)

lemma Gains.trans {t'' : FileTree} (hstands : Stands t base b) (hrow : IsRow row)
    (hrow' : IsRow row') (h : Gains t base b row t') (h' : Gains t' base b row' t'') :
    Gains t base b (row ++ row') t'' where
  node? place := by
    rw [h'.node?, node?_putRow_congr hrow' h.node?, putRow, putRow, putRow, List.foldl_append]
  keeps place hplace := h'.keeps place (h.keeps place hplace)
  resolve q content hmem := by
    rcases List.mem_append.mp hmem with hmem | hmem
    · exact resolve_mono (hstands.mono h.keeps) h'.keeps (hrow _ hmem).2 (h.resolve q content hmem)
    · exact h'.resolve q content hmem

end FileTree

end StructuredData
