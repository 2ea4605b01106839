import Mathlib.Data.List.Induction
import Mathlib.Data.List.Infix
import StructuredData.Proofs.Files.Filing
import StructuredData.Proofs.Files.Places

/-!
# Files, directories and links below a base

What each operation on a path below a base leaves when it ends well, and when it is sure to do so.
Making a directory with those on the way to it may also end early, with the first of them made.
-/

namespace StructuredData

namespace FileTree

open StructuredData.Path

variable {t t' : FileTree} {base p : Path} {b place : Place} {q : List Text} {content : Octets}
  {target : Text}

/-! ## Files -/

lemma walk_steps (hp : p.Readable) (hne : p.names ≠ []) :
    t.walk p.text (steps p.text) = t.resolve p := by
  rw [steps_text hp hne, resolve]

lemma placeToWrite_text (hp : p.Readable) (hne : p.names ≠ []) :
    t.placeToWrite p.text = t.resolve p >>= fun place =>
      match t.node? place with
      | none | some (.file _) => .ok place
      | some _ => .error .isDirectory := by
  have hempty : p.text.isEmpty = false := by simpa using text_ne_nil hp hne
  unfold placeToWrite
  simp only [hempty, endsWithSlash_text hp hne, Bool.false_and, Bool.false_eq_true, if_false,
    walk_steps hp hne]
  rfl

/-- A path to a file reads what the file holds. -/
lemma readText_text (hp : p.Readable) (hne : p.names ≠ []) (hresolve : t.resolve p = .ok place)
    (hnode : t.node? place = some (.file content)) : t.readText p.text = .ok content := by
  have hempty : p.text.isEmpty = false := by simpa using text_ne_nil hp hne
  unfold readText
  rw [hempty, if_neg Bool.false_ne_true, walk_steps hp hne, hresolve]
  simp only [bind, Except.bind, hnode, endsWithSlash_text hp hne]
  rfl

lemma names_below_ne_nil (hne : q ≠ []) : (base.below q).names ≠ [] := by
  simp [below, hne]

/-- One node put below a base, where no directory was unless a directory is put. -/
lemma gains_put (h : Stands t base b) (hq : ∀ name ∈ q, IsName name) (hne : q ≠ [])
    {node : FileNode} (hresolve : t.resolve (base.below q) = .ok (b ++ q))
    (hnode : t.node? (b ++ q) = some .directory → node = .directory) :
    Gains t base b [(q, node)] (t.put (b ++ q) node) := by
  have hkeeps : KeepsDirectories t (t.put (b ++ q) node) := by
    intro other hother
    rw [node?_put (isImplicit_below hq hne b)]
    split_ifs with heq
    · rw [hnode (heq ▸ hother)]
    · exact hother
  refine ⟨fun _ => rfl, hkeeps, fun q' content hmem => ?_⟩
  cases List.mem_singleton.mp hmem
  exact resolve_mono h hkeeps hq hresolve

lemma gains_of_write (h : Stands t base b) (hq : ∀ name ∈ q, IsName name) (hne : q ≠ [])
    (hwrite : t.write (base.below q) content = .ok t') :
    Gains t base b [(q, .file content)] t' := by
  unfold write writeText naming at hwrite
  rw [placeToWrite_text (readable_below h.readable hq) (names_below_ne_nil hne)] at hwrite
  obtain ⟨place, hplace, hput⟩ := Outcome.bind_eq_ok.mp (Outcome.mapError_eq_ok.mp hwrite)
  cases hput
  obtain ⟨found, hresolve, hfree⟩ := Outcome.bind_eq_ok.mp hplace
  obtain ⟨rfl, -⟩ := (resolve_below h hq).mp hresolve
  split at hfree
  · next hnode =>
    cases hfree
    exact gains_put h hq hne hresolve fun hdirectory => nomatch hnode.symm.trans hdirectory
  · next hnode =>
    cases hfree
    exact gains_put h hq hne hresolve fun hdirectory => nomatch hnode.symm.trans hdirectory
  · cases hfree

/-- A file can be written where nothing but a file is. -/
lemma write_eq_ok (h : Stands t base b) (hq : ∀ name ∈ q, IsName name) (hne : q ≠ [])
    (hopens : t.Opens b q) (hfits : Fits (base.below q))
    (hfree : ∀ node, t.node? (b ++ q) = some node → ∃ content, node = .file content)
    (content : Octets) :
    t.write (base.below q) content = .ok (t.put (b ++ q) (.file content)) := by
  have hresolve := (resolve_below h hq).mpr ⟨rfl, hopens, hfits⟩
  unfold write writeText naming
  rw [placeToWrite_text (readable_below h.readable hq) (names_below_ne_nil hne), hresolve]
  cases hnode : t.node? (b ++ q) with
  | none => simp [bind, Except.bind, hnode, Except.mapError, pure, Except.pure]
  | some node =>
    obtain ⟨before, rfl⟩ := hfree node hnode
    simp [bind, Except.bind, hnode, Except.mapError, pure, Except.pure]

/-! ## Links -/

lemma gains_of_relink (h : Stands t base b) (hq : ∀ name ∈ q, IsName name) (hne : q ≠ [])
    (hrelink : t.relink (base.below q) target = .ok t') :
    Gains t base b [(q, .link target)] t' := by
  unfold relink naming at hrelink
  obtain ⟨place, hresolve, hfree⟩ := Outcome.bind_eq_ok.mp (Outcome.mapError_eq_ok.mp hrelink)
  obtain ⟨rfl, -⟩ := (resolve_below h hq).mp hresolve
  split at hfree
  · cases hfree
  · next hnode =>
    cases hfree
    exact gains_put h hq hne hresolve fun hdirectory => absurd hdirectory hnode

/-- A link can be made, or made anew, where no directory is. -/
lemma relink_eq_ok (h : Stands t base b) (hq : ∀ name ∈ q, IsName name)
    (hopens : t.Opens b q) (hfits : Fits (base.below q))
    (hfree : t.node? (b ++ q) ≠ some .directory) (target : Text) :
    t.relink (base.below q) target = .ok (t.put (b ++ q) (.link target)) := by
  have hresolve := (resolve_below h hq).mpr ⟨rfl, hopens, hfits⟩
  unfold relink naming
  rw [hresolve]
  simp only [bind, Except.bind]
  rfl

/-! ## Directories -/

/-- Directories that are there stay as they are. -/
lemma gains_self {row : List (List Text × FileNode)} (hrow : IsRow row)
    (h : ∀ e ∈ row, e.2 = .directory ∧ t.node? (b ++ e.1) = some .directory) :
    Gains t base b row t := by
  refine ⟨fun place => ?_, fun _ h => h, fun q content hmem => ?_⟩
  · induction row generalizing place with
    | nil => rfl
    | cons e row ih =>
      obtain ⟨⟨hne, hnames⟩, hlater⟩ := List.forall_mem_cons.mp hrow
      obtain ⟨⟨hkind, hthere⟩, hrest⟩ := List.forall_mem_cons.mp h
      rw [ih hlater hrest]
      refine node?_putRow_congr hlater (fun other => ?_) place
      rw [node?_put (isImplicit_below hnames hne b), hkind]
      split_ifs with heq
      · rw [heq, hthere]
      · rfl
  · cases (h _ hmem).1

/-- The directories on the way down to a place below a base, and the one there. -/
def directories (q : List Text) : List (List Text × FileNode) :=
  q.inits.tail.map fun front => (front, .directory)

lemma directories_concat (q : List Text) (name : Text) :
    directories (q ++ [name]) = directories q ++ [(q ++ [name], .directory)] := by
  cases q with
  | nil => rfl
  | cons first rest => simp [directories, List.inits_append]

lemma mem_directories {e : List Text × FileNode} (he : e ∈ directories q) :
    e.2 = .directory ∧ e.1 ≠ [] ∧ e.1 <+: q := by
  induction q using List.reverseRecOn with
  | nil => cases he
  | append_singleton q name ih =>
    rw [directories_concat] at he
    rcases List.mem_append.mp he with he | he
    · obtain ⟨hkind, hne, hinit⟩ := ih he
      exact ⟨hkind, hne, hinit.trans (List.prefix_append _ _)⟩
    · obtain rfl := List.mem_singleton.mp he
      exact ⟨rfl, by simp, List.prefix_rfl⟩

lemma isRow_directories (hq : ∀ name ∈ q, IsName name) : IsRow (directories q) := by
  intro e he
  obtain ⟨-, hne, hinit⟩ := mem_directories he
  exact ⟨hne, fun name hname => hq name (hinit.subset hname)⟩

/-- Where the way down opens, its directories are all there. -/
lemma isDirectory_of_opens {name : Text} (hopens : t.Opens b (q ++ [name]))
    {e : List Text × FileNode} (he : e ∈ directories q) :
    e.2 = .directory ∧ t.node? (b ++ e.1) = some .directory := by
  obtain ⟨hkind, -, back, rfl⟩ := mem_directories he
  refine ⟨hkind, ?_⟩
  cases back with
  | nil => exact (hopens e.1 name [] (by simp)).1
  | cons next back => exact (hopens e.1 next (back ++ [name]) (by simp)).1

lemma exists_resolve_of_isDirectory {p : Path} (h : t.isDirectory p = true) :
    ∃ place, t.resolve p = .ok place ∧ t.node? place = some .directory := by
  unfold isDirectory find? at h
  split at h
  · next place hresolve => exact ⟨place, hresolve, by simpa using h⟩
  · simp at h

/-- A path below a base that leads to something leads down an open way. -/
lemma opens_of_isDirectory (h : Stands t base b) (hq : ∀ name ∈ q, IsName name)
    (hdirectory : t.isDirectory (base.below q) = true) :
    t.Opens b q ∧ t.node? (b ++ q) = some .directory := by
  obtain ⟨place, hresolve, hthere⟩ := exists_resolve_of_isDirectory hdirectory
  obtain ⟨rfl, hopens, -⟩ := (resolve_below h hq).mp hresolve
  exact ⟨hopens, hthere⟩

/-- Making sure of a directory leaves it there; the way down to it is open. -/
lemma gains_of_ensureDirectory (h : Stands t base b) (hq : ∀ name ∈ q, IsName name) (hne : q ≠ [])
    (hensure : t.ensureDirectory (base.below q) = .ok t') :
    t.Opens b q ∧ Gains t base b [(q, .directory)] t' := by
  unfold ensureDirectory at hensure
  split at hensure
  · next after hmake =>
    cases hensure
    obtain ⟨place, hresolve, hput⟩ := Outcome.bind_eq_ok.mp hmake
    obtain ⟨rfl, hopens, -⟩ := (resolve_below h hq).mp hresolve
    split at hput
    · cases hput
      exact ⟨hopens, gains_put h hq hne hresolve fun _ => rfl⟩
    · cases hput
  · split_ifs at hensure with hdirectory
    cases hensure
    rw [Bool.and_eq_true] at hdirectory
    obtain ⟨hopens, hthere⟩ := opens_of_isDirectory h hq hdirectory.2
    exact ⟨hopens, gains_self (isRow_singleton hq hne _)
      (List.forall_mem_singleton.mpr ⟨rfl, hthere⟩)⟩

/-- The base itself is there already. -/
lemma growWith_base (h : Stands t base b) (fuel : ℕ) : t.growWith base fuel = (t, none) := by
  have hdirectory : t.isDirectory base = true := by
    simp [isDirectory, find?, h.resolve, h.directory]
  have hmake : t.makeDirectory base = .error .alreadyExists := by
    simp [makeDirectory, h.resolve, bind, Except.bind, h.directory]
  cases fuel with
  | zero => simp [growWith, ensureDirectory, hmake, hdirectory, grown]
  | succ fuel => simp [growWith, hmake, hdirectory]

/-- The first directories on the way down are made, and all of them unless there is a fault. -/
def Grows (t : FileTree) (base : Path) (b : Place) (q : List Text) (t' : FileTree)
    (fault : Option FileFault) : Prop :=
  ∃ row, row <+: directories q ∧ Gains t base b row t' ∧ (fault = none ↔ row = directories q)

variable {row : List (List Text × FileNode)} {t₁ : FileTree} {fault : Option FileFault}

/-- What has been made before a fault leaves out the last directory. -/
lemma grows_of_fault {name : Text} (hrow : row <+: directories q) (hgains : Gains t base b row t')
    (fault : FileFault) : Grows t base b (q ++ [name]) t' (some fault) := by
  rw [Grows, directories_concat]
  refine ⟨row, hrow.trans (List.prefix_append _ _), hgains, iff_of_false nofun fun heq => ?_⟩
  have hle := hrow.length_le
  rw [heq, List.length_append, List.length_singleton] at hle
  omega

/-- The last directory can be made when those in front of it are there, made or found. -/
lemma grows_of_grown {name : Text} (h : Stands t base b) (hq : ∀ other ∈ q ++ [name], IsName other)
    (hrow : row <+: directories q) (hgains : Gains t base b row t₁)
    (hgrown : t₁.grown (t₁.ensureDirectory (base.below (q ++ [name]))) = (t', fault)) :
    Grows t base b (q ++ [name]) t' fault := by
  cases hensure : t₁.ensureDirectory (base.below (q ++ [name])) with
  | error fault =>
    rw [hensure] at hgrown
    cases hgrown
    exact grows_of_fault hrow hgains fault
  | ok t₂ =>
    rw [hensure] at hgrown
    cases hgrown
    have hne : q ++ [name] ≠ [] := by simp
    have hfront : ∀ other ∈ q, IsName other := fun other hother => hq other (by simp [hother])
    have hstands := h.mono hgains.keeps
    obtain ⟨hopens, hlast⟩ := gains_of_ensureDirectory hstands hq hne hensure
    -- the directories after those of the row were there before
    obtain ⟨later, hlater⟩ := hrow
    have hdirectories : IsRow (row ++ later) := hlater ▸ isRow_directories hfront
    have hway := isRow_append_iff.mp hdirectories
    have hfound : Gains t₁ base b later t₁ := by
      refine gains_self hway.2 fun e he => ?_
      exact isDirectory_of_opens hopens (hlater ▸ List.mem_append_right row he)
    refine ⟨_, List.prefix_rfl, ?_, iff_of_true rfl rfl⟩
    rw [directories_concat, ← hlater]
    have hwhole := hgains.trans h hway.1 hway.2 hfound
    exact hwhole.trans h hdirectories (isRow_singleton hq hne _) hlast

/-- Making directories makes the first of those on the way, or all of them. -/
lemma grows_of_growWith (h : Stands t base b) (hq : ∀ name ∈ q, IsName name) {fuel : ℕ}
    (hgrow : t.growWith (base.below q) fuel = (t', fault)) : Grows t base b q t' fault := by
  induction q using List.reverseRecOn generalizing t' fault fuel with
  | nil =>
    rw [below_nil, growWith_base h] at hgrow
    cases hgrow
    exact ⟨[], List.prefix_rfl, .refl t, iff_of_true rfl rfl⟩
  | append_singleton q name ih =>
    have hfront : ∀ other ∈ q, IsName other := fun other hother => hq other (by simp [hother])
    have hfound : t.ensureDirectory (base.below (q ++ [name])) = .ok t' → fault = none →
        Grows t base b (q ++ [name]) t' fault := fun hensure hnone =>
      grows_of_grown h hq List.nil_prefix (.refl t) (by rw [hensure, hnone]; rfl)
    cases fuel with
    | zero => exact grows_of_grown h hq List.nil_prefix (.refl t) hgrow
    | succ fuel =>
      rw [growWith] at hgrow
      split at hgrow
      · next hmake =>
        cases hgrow
        exact hfound (by rw [ensureDirectory, hmake]) rfl
      · rw [parent_below] at hgrow
        split at hgrow
        · next t₁ hparent =>
          obtain ⟨row, hrow, hgains, -⟩ := ih hfront hparent
          exact grows_of_grown h hq hrow hgains hgrow
        · next t₁ fault hparent =>
          cases hgrow
          obtain ⟨row, hrow, hgains, -⟩ := ih hfront hparent
          exact grows_of_fault hrow hgains fault
      · next kind hkind hmake =>
        split_ifs at hgrow with hdirectory
        · cases hgrow
          refine hfound ?_ rfl
          rw [ensureDirectory, hmake]
          simp [hdirectory, show kind ≠ .notFound from hkind]
        · cases hgrow
          exact grows_of_fault List.nil_prefix (.refl t) _

lemma grows_of_grow (h : Stands t base b) (hq : ∀ name ∈ q, IsName name)
    (hgrow : t.grow (base.below q) = (t', fault)) : Grows t base b q t' fault :=
  grows_of_growWith h hq hgrow

/-! ## When directories can be made -/

lemma mem_directories_of_front {front : List Text} (hinit : front <+: q) (hne : front ≠ []) :
    (front, FileNode.directory) ∈ directories q := by
  induction q using List.reverseRecOn with
  | nil => exact absurd (List.prefix_nil.mp hinit) hne
  | append_singleton q name ih =>
    rw [directories_concat, List.mem_append]
    rcases List.prefix_concat_iff.mp hinit with rfl | hinit
    · exact .inr List.mem_cons_self
    · exact .inl (ih hinit)

/-- A row that makes directories leaves directories. -/
lemma node?_of_directories {row : List (List Text × FileNode)} (hrow : IsRow row)
    (hkind : ∀ e ∈ row, e.2 = .directory) (hmem : (q, .directory) ∈ row) :
    (t.putRow b row).node? (b ++ q) = some .directory := by
  induction row generalizing t with
  | nil => cases hmem
  | cons e row ih =>
    obtain ⟨⟨hne, hnames⟩, hlater⟩ := List.forall_mem_cons.mp hrow
    obtain ⟨hfirst, hrest⟩ := List.forall_mem_cons.mp hkind
    by_cases hagain : (q, .directory) ∈ row
    · exact ih hlater hrest hagain
    · obtain rfl := (List.mem_cons.mp hmem).resolve_right hagain
      have hothers : ∀ e ∈ row, b ++ q ≠ b ++ e.1 := by
        intro e he heq
        refine hagain ?_
        rw [List.append_cancel_left heq, ← hrest e he]
        exact he
      have hput := node?_putRow_of_forall_ne (t := t.put (b ++ q) .directory) hlater hothers
      rwa [node?_put (isImplicit_below hnames hne b), if_pos rfl] at hput

/-- The names of a place below a base are short enough, and so are the paths on the way to it. -/
structure HasRoom (base : Path) (q : List Text) : Prop where
  names : ∀ name ∈ q, octetLength name ≤ maxNameLength
  paths : ∀ front, front <+: q → Fits (base.below front)

lemma hasRoom_iff :
    HasRoom base q ↔ (∀ name ∈ q, octetLength name ≤ maxNameLength) ∧
      ∀ front ∈ q.inits, Fits (base.below front) := by
  simp only [List.mem_inits]
  exact ⟨fun h => ⟨h.names, h.paths⟩, fun h => ⟨h.1, h.2⟩⟩

instance (base : Path) (q : List Text) : Decidable (HasRoom base q) :=
  decidable_of_iff _ hasRoom_iff.symm

/-- After the directories on the way have been made, it is open. -/
lemma Gains.opens {name : Text} (h : Stands t base b) (hq : ∀ other ∈ q, IsName other)
    (hgains : Gains t base b (directories q) t')
    (hshort : ∀ other ∈ q ++ [name], octetLength other ≤ maxNameLength) :
    t'.Opens b (q ++ [name]) := by
  intro front next back hsplit
  refine ⟨?_, hshort next (by simp [hsplit])⟩
  cases front with
  | nil =>
    rw [List.append_nil]
    exact hgains.keeps b h.directory
  | cons first front =>
    rw [hgains.node?]
    refine node?_of_directories (isRow_directories hq) (fun e he => (mem_directories he).1) ?_
    refine mem_directories_of_front ?_ (List.cons_ne_nil _ _)
    have hinit : first :: front <+: q ++ [name] := ⟨next :: back, hsplit.symm⟩
    have hlength : (first :: front).length ≤ q.length := by
      have hlengths := congrArg List.length hsplit
      simp only [List.length_append, List.length_cons, List.length_nil] at hlengths ⊢
      omega
    exact List.prefix_of_prefix_length_le hinit (List.prefix_append _ _) hlength

/-- A directory can be made sure of where nothing else is. -/
lemma ensureDirectory_isOk (h : Stands t base b) (hq : ∀ name ∈ q, IsName name)
    (hopens : t.Opens b q) (hfits : Fits (base.below q))
    (hfree : ∀ node, t.node? (b ++ q) = some node → node = .directory) :
    ∃ t', t.ensureDirectory (base.below q) = .ok t' := by
  have hresolve := (resolve_below h hq).mpr ⟨rfl, hopens, hfits⟩
  cases hnode : t.node? (b ++ q) with
  | none =>
    refine ⟨t.put (b ++ q) .directory, ?_⟩
    simp [ensureDirectory, makeDirectory, hresolve, bind, Except.bind, hnode]
  | some node =>
    obtain rfl := hfree node hnode
    refine ⟨t, ?_⟩
    simp [ensureDirectory, makeDirectory, isDirectory, find?, hresolve, bind, Except.bind, hnode]

/-- Where the way down holds directories only, it is open or one of them is not found. -/
lemma follow_eq_ok_or_notFound (hq : ∀ name ∈ q, IsName name)
    (hshort : ∀ name ∈ q, octetLength name ≤ maxNameLength)
    (hfree : ∀ front name back, q = front ++ name :: back → ∀ node,
      t.node? (b ++ front) = some node → node = .directory) :
    t.follow b q = .ok (b ++ q) ∨ t.follow b q = .error .notFound := by
  induction q generalizing b with
  | nil => exact .inl (by rw [follow, List.append_nil])
  | cons name rest ih =>
    obtain ⟨hname, hrest⟩ := List.forall_mem_cons.mp hq
    obtain ⟨hfirst, hlater⟩ := List.forall_mem_cons.mp hshort
    rw [follow, descend_of_isName hname]
    cases hnode : t.node? b with
    | none => exact .inr rfl
    | some node =>
      obtain rfl := hfree [] name rest rfl node (by rwa [List.append_nil])
      dsimp only
      rw [if_neg (not_lt.mpr hfirst), List.append_cons b name rest]
      refine ih hrest hlater fun front next back hsplit node hnode => ?_
      refine hfree (name :: front) next back (by rw [hsplit]; rfl) node ?_
      rwa [List.append_cons]

/-- Directories can be made below a base where nothing but directories is on the way. -/
lemma growWith_isOk (h : Stands t base b) (hq : ∀ name ∈ q, IsName name) (hroom : HasRoom base q)
    (hfree : ∀ front, front <+: q → front ≠ [] →
      ∀ node, t.node? (b ++ front) = some node → node = .directory)
    {fuel : ℕ} (hfuel : q.length ≤ fuel) :
    ∃ t', t.growWith (base.below q) fuel = (t', none) := by
  induction q using List.reverseRecOn generalizing fuel with
  | nil => exact ⟨t, by rw [below_nil, growWith_base h]⟩
  | append_singleton q name ih =>
    rw [List.length_append, List.length_singleton] at hfuel
    obtain ⟨fuel, rfl⟩ := Nat.exists_eq_add_of_le' (Nat.le_of_add_left_le hfuel)
    have hfits : Fits (base.below (q ++ [name])) := hroom.paths _ List.prefix_rfl
    have hinit : q <+: q ++ [name] := List.prefix_append _ _
    have hfront : ∀ other ∈ q, IsName other := fun other hother => hq other (by simp [hother])
    have hresolve : t.resolve (base.below (q ++ [name])) = t.follow b (q ++ [name]) := by
      rw [resolve_eq h hq, if_neg (not_lt.mpr hfits)]
    have hway : ∀ front next back, q ++ [name] = front ++ next :: back → ∀ node,
        t.node? (b ++ front) = some node → node = .directory := by
      intro front next back hsplit node hnode
      cases front with
      | nil =>
        rw [List.append_nil, h.directory] at hnode
        exact (Option.some.inj hnode).symm
      | cons first front =>
        exact hfree _ ⟨next :: back, hsplit.symm⟩ (List.cons_ne_nil _ _) node hnode
    rw [growWith]
    rcases follow_eq_ok_or_notFound hq hroom.names hway with hfound | hmissing
    · rw [hfound] at hresolve
      cases hnode : t.node? (b ++ (q ++ [name])) with
      | none =>
        refine ⟨t.put (b ++ (q ++ [name])) .directory, ?_⟩
        simp [makeDirectory, hresolve, bind, Except.bind, hnode]
      | some node =>
        obtain rfl := hfree _ List.prefix_rfl (by simp) node hnode
        have hdirectory : t.isDirectory (base.below (q ++ [name])) = true := by
          simp [isDirectory, find?, hresolve, hnode]
        exact ⟨t, by simp [makeDirectory, hresolve, bind, Except.bind, hnode, hdirectory]⟩
    · rw [hmissing] at hresolve
      obtain ⟨t₁, hparent⟩ := ih hfront
        ⟨fun other hother => hroom.names other (by simp [hother]),
          fun front hsub => hroom.paths front (hsub.trans hinit)⟩
        (fun front hsub => hfree front (hsub.trans hinit)) (Nat.le_of_succ_le_succ hfuel)
      obtain ⟨row, -, hgains, hall⟩ := grows_of_growWith h hfront hparent
      rw [hall.mp rfl] at hgains
      have hopens := hgains.opens h hfront hroom.names
      have hlast : ∀ node, t₁.node? (b ++ (q ++ [name])) = some node → node = .directory := by
        intro node hnode
        rw [hgains.node?] at hnode
        rcases mem_or_of_node?_putRow (isRow_directories hfront) hnode with ⟨e, he, -, rfl⟩ | hnode
        · exact (mem_directories he).1
        · exact hfree _ List.prefix_rfl (by simp) node hnode
      obtain ⟨t₂, hensure⟩ := ensureDirectory_isOk (h.mono hgains.keeps) hq hopens hfits hlast
      refine ⟨t₂, ?_⟩
      simp [makeDirectory, hresolve, bind, Except.bind, parent_below, hparent, grown, hensure]

lemma grow_isOk (h : Stands t base b) (hq : ∀ name ∈ q, IsName name) (hroom : HasRoom base q)
    (hfree : ∀ front, front <+: q → front ≠ [] →
      ∀ node, t.node? (b ++ front) = some node → node = .directory) :
    ∃ t', t.grow (base.below q) = (t', none) := by
  refine growWith_isOk h hq hroom hfree ?_
  rw [below, List.length_append]
  exact Nat.le_add_left _ _

/-! ## Bases -/

lemma isDirectory_of_makeDirectory (hmake : t.makeDirectory p = .ok t') :
    t'.isDirectory p = true := by
  obtain ⟨place, hresolve, hput⟩ := Outcome.bind_eq_ok.mp hmake
  split at hput
  · next hnone =>
    cases hput
    have himplicit : isImplicit place = false := by
      by_contra h
      rw [node?, if_pos (by simpa using h)] at hnone
      cases hnone
    have hkeeps : KeepsDirectories t (t.put place .directory) := by
      intro other hother
      rw [node?_put himplicit]
      split_ifs
      · rfl
      · exact hother
    have hsame := resolve_of_keepsDirectories hkeeps hresolve
    simp [isDirectory, find?, hsame, node?_put himplicit]
  · cases hput

lemma isDirectory_of_ensureDirectory (hensure : t.ensureDirectory p = .ok t') :
    t'.isDirectory p = true := by
  unfold ensureDirectory at hensure
  split at hensure
  · next hmake =>
    cases hensure
    exact isDirectory_of_makeDirectory hmake
  · split_ifs at hensure with hdirectory
    cases hensure
    exact (Bool.and_eq_true _ _ ▸ hdirectory).2

lemma isDirectory_of_growWith {fuel : ℕ} (hgrow : t.growWith p fuel = (t', none)) :
    t'.isDirectory p = true := by
  have hgrown : ∀ {t₁ : FileTree}, t₁.grown (t₁.ensureDirectory p) = (t', none) →
      t'.isDirectory p = true := by
    intro t₁ h
    cases hensure : t₁.ensureDirectory p with
    | ok t₂ =>
      rw [hensure] at h
      cases h
      exact isDirectory_of_ensureDirectory hensure
    | error fault =>
      rw [hensure] at h
      cases h
  cases fuel with
  | zero => exact hgrown hgrow
  | succ fuel =>
    rw [growWith] at hgrow
    split at hgrow
    · next hmake =>
      cases hgrow
      exact isDirectory_of_makeDirectory hmake
    · split at hgrow
      · exact hgrown hgrow
      · cases hgrow
    · split_ifs at hgrow with hdirectory
      · cases hgrow
        exact hdirectory
      · cases hgrow

/-- A readable path whose directories have been made stands for the last of them. -/
lemma exists_stands_of_grow (hp : p.Readable) (hgrow : t.grow p = (t', none)) :
    ∃ b, Stands t' p b := by
  obtain ⟨b, hresolve, hthere⟩ :=
    exists_resolve_of_isDirectory (isDirectory_of_growWith hgrow)
  exact ⟨b, stands_of_resolve hp hresolve hthere⟩

end FileTree

end StructuredData
