import StructuredData.Proofs.Archive.Run
import StructuredData.Proofs.Text.Utf8

/-!
# Safe names

What a label becomes is a safe name (`RunName.IsSafeName`): something, made of ASCII letters,
digits, dots, low lines and hyphens only, with no dot or low line at either end.  Making a name
leaves safe names as they are, and so it is done once and for all.

A safe name leads one step down, and the directory of a run is two such steps below the base of its
archive.  Wherever the base leads, making the directory of a run changes nothing outside the
directory of its label (`runDirectory_confined`).
-/

namespace StructuredData

open StructuredData.Path FileTree Filing

namespace RunName

variable {name label t : Text} {c : CodePoint} {p : CodePoint → Bool}

/-- What a safe name may be made of. -/
def alphabet : Text := "ABCDEFGHIJKLMNOPQRSTUVWXYZabcdefghijklmnopqrstuvwxyz0123456789._-"

/-- A name that can stand for a file or a directory wherever it is put. -/
structure IsSafeName (name : Text) : Prop where
  ne_nil : name ≠ []
  subset : name ⊆ alphabet
  head : ∀ c ∈ name.head?, c ≠ CodePoint.ofChar '.' ∧ c ≠ CodePoint.ofChar '_'
  last : ∀ c ∈ name.getLast?, c ≠ CodePoint.ofChar '.' ∧ c ≠ CodePoint.ofChar '_'

/-- Safe code points are those up to the small letters that are found in the alphabet. -/
lemma isSafe_iff_mem_alphabet : isSafe c = true ↔ c ∈ alphabet := by
  constructor
  · intro h
    have hsmall : c.val < 123 := by
      by_contra hlarge
      have hne (d : CodePoint) (hd : d.val < 123) : c ≠ d := by
        rintro rfl
        exact hlarge hd
      simp [isSafe, CodePoint.isAsciiDigit, CodePoint.isAsciiLower, CodePoint.isAsciiUpper,
        hne '.' (by decide), hne '_' (by decide), hne '-' (by decide)] at h
      omega
    have hall : ∀ n < 123, isSafe (CodePoint.ofNat n) = true → CodePoint.ofNat n ∈ alphabet := by
      decide +kernel
    have hself : CodePoint.ofNat c.val = c := Utf8.ofNat_of_eq rfl
    rw [← hself] at h ⊢
    exact hall c.val hsmall h
  · have hall : ∀ c ∈ alphabet, isSafe c = true := by decide
    exact hall c

lemma isEdge_eq_false_iff :
    isEdge c = false ↔ c ≠ CodePoint.ofChar '.' ∧ c ≠ CodePoint.ofChar '_' := by
  simp [isEdge]

/-! ## Trimming -/

/-- What is trimmed ends with nothing that is trimmed off. -/
lemma getLast?_trim (h : (Text.trim p t).getLast? = some c) : p c = false := by
  rw [Text.trim, List.getLast?_reverse] at h
  have hnot := List.head?_dropWhile_not p (t.dropWhile p).reverse
  rw [h] at hnot
  exact hnot

/-- Nothing is trimmed off a text with neither end to trim. -/
lemma trim_eq_self (hhead : ∀ c ∈ t.head?, p c = false) (hlast : ∀ c ∈ t.getLast?, p c = false) :
    Text.trim p t = t := by
  have hkept (s : Text) (hs : ∀ c ∈ s.head?, p c = false) : s.dropWhile p = s := by
    cases s with
    | nil => rfl
    | cons c s => exact List.dropWhile_cons_of_neg (by simp [hs c rfl])
  rw [Text.trim, hkept t hhead, hkept t.reverse (by rwa [List.head?_reverse]), List.reverse_reverse]

/-! ## Names of labels -/

lemma replaceUnsafe_of_isSafe (h : ∀ c ∈ t, isSafe c = true) (afterUnsafe : Bool) :
    replaceUnsafe afterUnsafe t = t := by
  induction t generalizing afterUnsafe with
  | nil => rfl
  | cons c t ih =>
    obtain ⟨hc, ht⟩ := List.forall_mem_cons.mp h
    rw [replaceUnsafe, if_pos hc, ih ht]

lemma isSafeName_untitled : IsSafeName "untitled" where
  ne_nil := by decide
  subset := by decide
  head := by decide
  last := by decide

/-- Every label becomes a safe name. -/
lemma isSafeName_ofLabel (label : Text) : IsSafeName (ofLabel label) := by
  refine ⟨ofLabel_ne_nil label, fun c hc => isSafe_iff_mem_alphabet.mp (isSafe_of_mem_ofLabel hc),
    ?_, ?_⟩
  all_goals
    unfold ofLabel
    dsimp only
    split_ifs
  · exact isSafeName_untitled.head
  · exact fun c hc => isEdge_eq_false_iff.mp (head?_trim hc)
  · exact isSafeName_untitled.last
  · exact fun c hc => isEdge_eq_false_iff.mp (getLast?_trim hc)

lemma IsSafeName.ofLabel_eq (h : IsSafeName name) : ofLabel name = name := by
  have hsafe : replaceUnsafe false name = name :=
    replaceUnsafe_of_isSafe (fun c hc => isSafe_iff_mem_alphabet.mpr (h.subset hc)) false
  have htrim : Text.trim isEdge name = name :=
    trim_eq_self (fun c hc => isEdge_eq_false_iff.mpr (h.head c hc)) fun c hc =>
      isEdge_eq_false_iff.mpr (h.last c hc)
  have hne : name.isEmpty = false := by simpa using h.ne_nil
  unfold ofLabel
  dsimp only
  rw [hsafe, htrim, hne, if_neg Bool.false_ne_true]

lemma ofLabel_eq_self_iff : ofLabel label = label ↔ IsSafeName label := by
  constructor
  · intro h
    exact h ▸ isSafeName_ofLabel label
  · exact IsSafeName.ofLabel_eq

end RunName

/-! ## The directory of a run -/

namespace Path

/-- A path that a text writes, with further names below, is written so that it reads as itself. -/
lemma ofText_text_below (t : Text) {q : List Text} (hq : ∀ name ∈ q, IsName name)
    (hne : q ≠ []) : ofText ((ofText t).below q).text = (ofText t).below q := by
  have hreadable := readable_below (readable_ofText t) hq
  have hnodot : ∀ name ∈ ((ofText t).below q).names, decide (name ≠ Text.ofString ".") = true := by
    intro name hname
    rcases List.mem_append.mp hname with h | h
    · exact (List.mem_filter.mp h).2
    · rw [decide_eq_true_iff]
      rintro rfl
      exact absurd (hq _ h).noDots (by decide)
  show (⟨startOf _, (steps _).filter _⟩ : Path) = _
  rw [startOf_text hreadable, steps_text hreadable (names_below_ne_nil hne),
    List.filter_eq_self.mpr hnodot]

end Path

namespace Archive

variable {base run : Path} {b : Place} {t t' : FileTree} {label : Text} {start : Moment}

/-- The path is that of the base with two names below it, each of which leads one step down, and it
reads so when it is written. -/
structure LiesBelow (base : Path) (shelf stamp : Text) (run : Path) : Prop where
  start : run.start = base.start
  names : run.names = base.names ++ [shelf, stamp]
  parent : run.parent.parent = base
  isName : IsName shelf ∧ IsName stamp
  readsBack : Path.ofText run.text = run

lemma liesBelow_runDirectory (written label : Text) (start : Moment) :
    LiesBelow (Path.ofText written) (RunName.ofLabel label) start.stamp
      (runDirectory (Path.ofText written) label start) := by
  have hshelf := RunName.isName_ofLabel label
  have hstamp := Moment.isName_stamp start
  have hnames : ∀ name ∈ [RunName.ofLabel label, start.stamp], IsName name := by
    simp [hshelf, hstamp]
  refine ⟨rfl, ?_, ?_, ⟨hshelf, hstamp⟩, ?_⟩
  · rw [Run.runDirectory_eq]
    rfl
  · simp [runDirectory, child, Path.parent]
  · rw [Run.runDirectory_eq]
    exact ofText_text_below written hnames (List.cons_ne_nil _ _)

/-- Any label and any moment are those of some run. -/
lemma exists_run (label : Text) (start : Moment) : ∃ r : Run, r.label = label ∧ r.start = start :=
  ⟨⟨label, start, ⟨.empty, [], [], []⟩, start⟩, rfl, rfl⟩

/-- Making the directory of a run changes nothing but the directory of its label, which may be made,
and what is in its own. -/
lemma place_of_makeRun (hstands : Stands t base b) {place : Place}
    (h : ((makeRun base label start).on t).2.node? place ≠ t.node? place) :
    place = b ++ [RunName.ofLabel label] ∨
      b ++ [RunName.ofLabel label, start.stamp] <+: place := by
  obtain ⟨r, rfl, rfl⟩ := exists_run label start
  obtain ⟨done, hdone, hgains, -⟩ := r.puts_makeRun t hstands
  by_contra hnowhere
  rw [hgains.node?] at h
  refine h (node?_putRow_of_forall_ne (r.isRow_directoryRow.of_front hdone) ?_)
  rintro e he rfl
  refine hnowhere ?_
  have hrow := hdone.subset he
  simp only [Run.directoryRow, Run.directories_within, List.mem_append, List.mem_cons,
    List.not_mem_nil, or_false] at hrow
  rcases hrow with (rfl | rfl) | rfl
  · exact .inl rfl
  · exact .inr List.prefix_rfl
  · exact .inr ((List.prefix_append_right_inj b).mpr ⟨["documents"], rfl⟩)

/-- Once it is made, the directory of a run is where its path leads, two steps below the base. -/
lemma resolve_of_makeRun (hstands : Stands t base b)
    (h : (makeRun base label start).on t = (.ok run, t')) :
    t'.resolve run = .ok (b ++ [RunName.ofLabel label, start.stamp]) ∧
      t'.node? (b ++ [RunName.ofLabel label, start.stamp]) = some .directory := by
  obtain ⟨r, rfl, rfl⟩ := exists_run label start
  rw [Run.eq_runDirectory_of_makeRun h, Run.runDirectory_eq]
  rw [Run.makeRun_eq] at h
  obtain ⟨_, t₁, hmake, h⟩ := on_bind_eq_ok.mp h
  obtain ⟨_, t₂, hensure, h⟩ := on_bind_eq_ok.mp h
  cases h
  have hgrow := on_makeDirectories_eq_ok.mp hmake
  obtain ⟨row, -, hgains, -⟩ := grows_of_grow hstands r.isName_directory hgrow
  have hstands₁ := hstands.mono hgains.keeps
  have hlater : ∀ name ∈ r.within ["documents"], IsName name :=
    Run.isName_within (Run.isName_single (by decide))
  obtain ⟨-, hkept⟩ := gains_of_ensureDirectory hstands₁ hlater (List.cons_ne_nil _ _)
    (on_step_eq_ok.mp hensure)
  -- the directory is there once it is made, and stays when the one inside it is
  obtain ⟨place, hresolve, hthere⟩ :=
    exists_resolve_of_isDirectory (isDirectory_of_growWith hgrow)
  obtain ⟨rfl, -, -⟩ := (resolve_below hstands₁ r.isName_directory).mp hresolve
  exact ⟨resolve_mono hstands₁ hkept.keeps r.isName_directory hresolve, hkept.keeps _ hthere⟩

/-- Every label becomes a safe name, and none but a safe name is left as it is.  So whatever the
label and the moment, the directory of a run lies two steps below the base of the archive: where the
base leads to a directory, nothing is changed but the directory of the label, which may be made, and
what is in the directory of the run, and once this is made, it is where its path leads. -/
theorem runDirectory_confined (label : Text) (start : Moment) :
    (RunName.IsSafeName (RunName.ofLabel label) ∧ slash ∉ RunName.ofLabel label ∧
      RunName.ofLabel label ≠ "." ∧ RunName.ofLabel label ≠ ".." ∧
      RunName.ofLabel (RunName.ofLabel label) = RunName.ofLabel label ∧
      (RunName.ofLabel label = label ↔ RunName.IsSafeName label)) ∧
    ∀ written : Text,
      let base := Path.ofText written
      let run := runDirectory base label start
      LiesBelow base (RunName.ofLabel label) start.stamp run ∧
      ∀ (t : FileTree) (b : Place), t.resolve base = .ok b → t.node? b = some .directory →
        (∀ place, ((makeRun base label start).on t).2.node? place ≠ t.node? place →
          place = b ++ [RunName.ofLabel label] ∨
            b ++ [RunName.ofLabel label, start.stamp] <+: place) ∧
        ∀ made t', (makeRun base label start).on t = (.ok made, t') →
          made = run ∧ t'.resolve run = .ok (b ++ [RunName.ofLabel label, start.stamp]) ∧
            t'.node? (b ++ [RunName.ofLabel label, start.stamp]) = some .directory := by
  have hsafe := RunName.isSafeName_ofLabel label
  have hname := RunName.isName_ofLabel label
  refine ⟨⟨hsafe, hname.noSlash, ?dot, ?dots, hsafe.ofLabel_eq, RunName.ofLabel_eq_self_iff⟩, ?_⟩
  case dot =>
    intro h
    exact absurd (h ▸ hname.noDots) (by decide)
  case dots =>
    intro h
    exact absurd (h ▸ hname.noDots) (by decide)
  intro written base run
  refine ⟨liesBelow_runDirectory written label start, fun t b hresolve hdirectory => ?_⟩
  have hstands := stands_of_resolve (readable_ofText written) hresolve hdirectory
  refine ⟨fun place => place_of_makeRun hstands, fun made t' hmade => ?_⟩
  obtain rfl := Run.eq_runDirectory_of_makeRun hmade
  exact ⟨rfl, resolve_of_makeRun hstands hmade⟩

/-- A label that asks for a place far outside the archive. -/
def strayLabel : Text := "../../etc//passwd é."

/-- An archive beside the working directory. -/
def besideWork : FileTree := ⟨[(["..", "reports"], .directory)]⟩

/-- A second in autumn. -/
def autumn : Moment := ⟨2025, 11, 23, 14, 30, 22, 0⟩

theorem strayLabel_confined :
    ∃ t', (makeRun (Path.ofText "../reports") strayLabel autumn).on besideWork =
        (.ok (Path.ofText "../reports/etc_passwd/2025-11-23_143022"), t') ∧
      t'.node? ["..", "reports", "etc_passwd", "2025-11-23_143022"] = some .directory ∧
      t'.node? ["..", "etc"] = none := by
  obtain ⟨-, hplaces⟩ := runDirectory_confined strayLabel autumn
  obtain ⟨hconfined, hmakes⟩ := (hplaces "../reports").2 besideWork ["..", "reports"]
    (by decide +kernel) (by decide +kernel)
  have hname : RunName.ofLabel strayLabel = "etc_passwd" := by decide +kernel
  have hstamp : autumn.stamp = "2025-11-23_143022" := by decide +kernel
  have hok : ((makeRun (Path.ofText "../reports") strayLabel autumn).on
      besideWork).1.toOption.isSome = true := by
    decide +kernel
  obtain ⟨made, hmade⟩ := Outcome.exists_eq_ok_of_isSome hok
  have hon : (makeRun (Path.ofText "../reports") strayLabel autumn).on besideWork =
      (.ok made, ((makeRun (Path.ofText "../reports") strayLabel autumn).on besideWork).2) :=
    Prod.ext hmade rfl
  obtain ⟨hrun, -, hthere⟩ := hmakes made _ hon
  have hpath : made = Path.ofText "../reports/etc_passwd/2025-11-23_143022" := by
    rw [hrun]
    decide +kernel
  refine ⟨_, hpath ▸ hon, ?_, ?_⟩
  · rwa [hname, hstamp] at hthere
  · by_contra hchanged
    have hplace := hconfined ["..", "etc"] hchanged
    rw [hname] at hplace
    revert hplace
    decide

end Archive

end StructuredData
