import Mathlib.Tactic.Common
import StructuredData.Files.Tree
import StructuredData.Proofs.Text.Parts

/-!
# Paths and their written forms

The names of a path are not empty and hold no slash, so that the written form of a path shows where
it starts and what its steps are.
-/

namespace StructuredData

namespace Path

variable {p base : Path} {name t : Text} {c : CodePoint}

/-- A slash, which stands between the names of a written path. -/
abbrev slash : CodePoint := '/'

/-- The names of the path can be told apart in its written form. -/
def Readable (p : Path) : Prop := ∀ name ∈ p.names, name ≠ [] ∧ slash ∉ name

/-- A code point that a path can hold: no null character, and no half of a surrogate pair but those
that stand for octets. -/
def IsPoint (c : CodePoint) : Prop :=
  c.val ≠ 0 ∧ (c.isSurrogate && !FileTree.isEscapedOctet c) = false

instance (c : CodePoint) : Decidable (IsPoint c) := inferInstanceAs (Decidable (_ ∧ _))

/-- A name that leads one step down. -/
structure IsName (name : Text) : Prop where
  ne_nil : name ≠ []
  noSlash : slash ∉ name
  points : ∀ c ∈ name, IsPoint c
  noDots : isDots name = false

/-- The path with further names below. -/
def below (base : Path) (names : List Text) : Path := { base with names := base.names ++ names }

lemma below_nil (base : Path) : base.below [] = base := by simp [below]

lemma parent_below (base : Path) (q : List Text) (name : Text) :
    (base.below (q ++ [name])).parent = base.below q := by
  simp [below, parent, ← List.append_assoc]

lemma readable_below (hbase : base.Readable) {q : List Text} (hq : ∀ name ∈ q, IsName name) :
    (base.below q).Readable := by
  intro name hname
  rcases List.mem_append.mp hname with h | h
  · exact hbase name h
  · exact ⟨(hq name h).ne_nil, (hq name h).noSlash⟩

/-! ## Reading a written path -/

lemma readable_ofText (t : Text) : (ofText t).Readable := by
  intro name hname
  obtain ⟨hstep, -⟩ := List.mem_filter.mp hname
  obtain ⟨hpart, hne⟩ := List.mem_filter.mp hstep
  exact ⟨by simpa using hne, Text.notMem_of_mem_splitOn hpart⟩

/-! ## Writing a path -/

lemma join_cons_cons (name next : Text) (rest : List Text) :
    Text.join "/" (name :: next :: rest) = name ++ slash :: Text.join "/" (next :: rest) := by
  rw [Text.join, List.intercalate_cons_cons, List.append_assoc]
  rfl

lemma splitOn_join {names : List Text} (hnames : names ≠ []) (h : ∀ name ∈ names, slash ∉ name) :
    Text.splitOn slash (Text.join "/" names) = names := by
  induction names with
  | nil => exact absurd rfl hnames
  | cons name rest ih =>
    obtain ⟨hname, hrest⟩ := List.forall_mem_cons.mp h
    cases rest with
    | nil =>
      rw [Text.join, List.intercalate_singleton]
      exact Text.splitOn_of_notMem hname
    | cons next rest =>
      rw [join_cons_cons, Text.splitOn_append_of_notMem hname, ih (List.cons_ne_nil _ _) hrest]

/-- The slashes at the start of a path only add empty parts. -/
lemma steps_start (start : PathStart) (t : Text) : steps (start.text ++ t) = steps t := by
  cases start with
  | workingDirectory => rfl
  | root => rfl
  | doubleSlash => rfl

lemma steps_text (hp : p.Readable) (hne : p.names ≠ []) : steps p.text = p.names := by
  have hempty : p.names.isEmpty = false := by simpa using hne
  rw [text, hempty, Bool.and_false, if_neg Bool.false_ne_true, steps_start]
  unfold steps
  rw [← slash, splitOn_join hne fun name h => (hp name h).2, List.filter_eq_self]
  intro name hname
  simpa using (hp name hname).1

/-- What is written for the names of a path starts with no slash. -/
lemma head?_join_ne_slash (hp : p.Readable) : (Text.join "/" p.names).head? ≠ some slash := by
  cases hnames : p.names with
  | nil => simp [Text.join]
  | cons name rest =>
    obtain ⟨hne, hslash⟩ := hp name (hnames ▸ List.mem_cons_self)
    obtain ⟨c, tail, rfl⟩ := List.exists_cons_of_ne_nil hne
    have hc : c ≠ slash := fun h => hslash (h ▸ List.mem_cons_self)
    cases rest with
    | nil => simpa [Text.join] using hc
    | cons next rest => simpa [Text.join, List.intercalate_cons_cons] using hc

lemma startOf_text (hp : p.Readable) : startOf p.text = p.start := by
  have hstart (start : PathStart) : startOf (start.text ++ Text.join "/" p.names) = start := by
    have hhead := head?_join_ne_slash hp
    have hnone : (Text.join "/" p.names).takeWhile (fun c => c = slash) = [] := by
      cases htext : Text.join "/" p.names with
      | nil => rfl
      | cons c rest =>
        rw [htext] at hhead
        exact List.takeWhile_cons_of_neg (by simpa using hhead)
    generalize Text.join "/" p.names = names at hnone
    cases start <;> simp [startOf, PathStart.text, Text.ofString, hnone]
  unfold text
  split_ifs with hdot
  · simp only [Bool.and_eq_true, decide_eq_true_eq] at hdot
    rw [hdot.1]
    rfl
  · exact hstart p.start

lemma exists_getLast?_join {names : List Text} (hne : names ≠ [])
    (h : ∀ name ∈ names, name ≠ [] ∧ slash ∉ name) :
    ∃ c, (Text.join "/" names).getLast? = some c ∧ c ≠ slash := by
  induction names with
  | nil => exact absurd rfl hne
  | cons name rest ih =>
    obtain ⟨⟨hname, hslash⟩, hrest⟩ := List.forall_mem_cons.mp h
    cases rest with
    | nil =>
      refine ⟨name.getLast hname, ?_, fun heq => hslash (heq ▸ List.getLast_mem hname)⟩
      rw [Text.join, List.intercalate_singleton]
      exact List.getLast?_eq_some_getLast hname
    | cons next rest =>
      obtain ⟨c, hc, hcslash⟩ := ih (List.cons_ne_nil _ _) hrest
      refine ⟨c, ?_, hcslash⟩
      rw [join_cons_cons, List.getLast?_append, List.getLast?_cons, hc]
      rfl

lemma endsWithSlash_text (hp : p.Readable) (hne : p.names ≠ []) :
    FileTree.endsWithSlash p.text = false := by
  obtain ⟨c, hc, hcslash⟩ := exists_getLast?_join hne hp
  have hempty : p.names.isEmpty = false := by simpa using hne
  rw [FileTree.endsWithSlash, text, hempty, Bool.and_false, if_neg Bool.false_ne_true,
    List.getLast?_append, hc]
  simpa using hcslash

lemma text_ne_nil (hp : p.Readable) (hne : p.names ≠ []) : p.text ≠ [] := by
  intro h
  have hsteps := steps_text hp hne
  rw [h] at hsteps
  exact hne hsteps.symm

lemma mem_text_of_mem (hname : name ∈ p.names) (hc : c ∈ name) : c ∈ p.text := by
  have hempty : p.names.isEmpty = false := by simpa using List.ne_nil_of_mem hname
  rw [text, hempty, Bool.and_false, if_neg Bool.false_ne_true]
  exact List.mem_append_right _ (Text.mem_join_of_mem hname hc)

lemma mem_names_of_mem_text (hc : c ∈ p.text) :
    c = slash ∨ c = CodePoint.ofChar '.' ∨ ∃ name ∈ p.names, c ∈ name := by
  have hstart : ∀ start : PathStart, c ∈ start.text → c = slash := by
    intro start h
    cases start with
    | workingDirectory => cases h
    | root => exact List.mem_singleton.mp h
    | doubleSlash => exact List.eq_of_mem_replicate (n := 2) h
  unfold text at hc
  split_ifs at hc
  · exact .inr (.inl (List.mem_singleton.mp hc))
  · rcases List.mem_append.mp hc with h | h
    · exact .inl (hstart p.start h)
    · exact (Text.mem_of_mem_join h).imp List.mem_singleton.mp .inr

/-! ## What a written path is made of -/

/-- Apart from slashes and dots, a path is written with what the text is made of that wrote it. -/
lemma mem_text_ofText_iff (hslash : c ≠ slash) (hdot : c ≠ CodePoint.ofChar '.') :
    c ∈ (ofText t).text ↔ c ∈ t := by
  constructor
  · intro h
    obtain ⟨name, hname, hc⟩ := ((mem_names_of_mem_text h).resolve_left hslash).resolve_left hdot
    obtain ⟨hstep, -⟩ := List.mem_filter.mp hname
    exact (Text.exists_mem_splitOn_iff hslash).mp ⟨name, (List.mem_filter.mp hstep).1, hc⟩
  · intro h
    obtain ⟨part, hpart, hc⟩ := (Text.exists_mem_splitOn_iff hslash).mpr h
    have hne : part ≠ [] := List.ne_nil_of_mem hc
    have hdots : part ≠ "." := by
      rintro rfl
      exact hdot (List.mem_singleton.mp hc)
    have hstep : part ∈ steps t := List.mem_filter.mpr ⟨hpart, by simpa using hne⟩
    exact mem_text_of_mem (List.mem_filter.mpr ⟨hstep, by simpa using hdots⟩) hc

end Path

end StructuredData
