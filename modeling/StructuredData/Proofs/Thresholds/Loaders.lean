import StructuredData.Proofs.Files.JsonFiles
import StructuredData.Proofs.Files.WrittenValues
import StructuredData.Proofs.Thresholds.Settings

/-!
# The two loaders of thresholds

The environment and a file set the thresholds by the same texts, but differ in what they do with a
text that cannot be read: the environment passes over it with a warning, the file is refused.  Here
the same texts stand in both (`Texts.InEnvironment`, `Texts.InFile`), and one loader is described by
the other: the environment gives what a file of the readable texts alone gives
(`assignMembers_readable`), and warns about the others in the order of the settings
(`warnings_eq`).

Both follow the settings in turn, so that one step is looked at (`assignVariable_eq`) and the rest
is induction on the row of settings.  A setting is read from its own text alone, whatever has been
read before; this is why one bad text disturbs no other setting.
-/

namespace StructuredData

namespace Thresholds

/-- Texts for some of the settings. -/
abbrev Texts := Setting → Option Text

namespace Texts

/-- The setting has no text, or one that can be read for it. -/
def reads (a : Texts) (s : Setting) : Bool :=
  (a s).all fun text => (s.read (.string text)).toOption.isSome

/-- The texts that can be read. -/
def readable (a : Texts) : Texts := fun s => if a.reads s then a s else none

/-- One warning for each text that cannot be read, in the order of the settings. -/
def warningsOf (a : Texts) (settings : List Setting) : List Text :=
  settings.filterMap fun s => if a.reads s then none else (a s).map (ignoredWarning s)

/-- The warnings about all settings. -/
def warnings (a : Texts) : List Text := a.warningsOf Setting.all

/-- The texts are the values of the variables of their settings. -/
def InEnvironment (a : Texts) (vars : Variables) : Prop :=
  ∀ s, valueOf? vars (variableName s) = a s

/-- The texts are the members of the object, as far as its members have names of settings. -/
def InObject (a : Texts) (ms : Members) : Prop := ∀ s : Setting, ms.get? s.name = (a s).map .string

/-- A file holds an object with the texts as its members, nested at most so deep. -/
def InFile (a : Texts) (depth : ℕ) (tree : FileTree) (path : Text) : Prop :=
  tree.isFile (Path.ofText path) = true ∧
    ∃ v ms, tree.readJson depth (Path.ofText path).text = .ok v ∧ SettingObject v ms ∧
      a.InObject ms

variable {a : Texts} {s : Setting} {text : Text}

lemma reads_iff : a.reads s = true ↔ ∀ text, a s = some text → s.Reads (.string text) := by
  have hsome : ∀ r : Except SettingFault Number, r.toOption.isSome = true ↔ ∃ n, r = .ok n := by
    intro r
    cases r <;> simp [Except.toOption]
  unfold reads Setting.Reads
  cases a s with
  | none => simp
  | some text => simp [hsome]

lemma readable_eq_some_iff :
    a.readable s = some text ↔ a s = some text ∧ s.Reads (.string text) := by
  unfold readable
  by_cases hreads : a.reads s = true
  · rw [if_pos hreads]
    exact ⟨fun h => ⟨h, reads_iff.mp hreads text h⟩, And.left⟩
  · rw [if_neg hreads]
    refine iff_of_false nofun fun ⟨htext, hread⟩ => hreads (reads_iff.mpr fun other hother => ?_)
    obtain rfl : text = other := Option.some.inj (htext.symm.trans hother)
    exact hread

/-- There are no warnings where every text can be read. -/
lemma warnings_eq_nil_iff : a.warnings = [] ↔ ∀ s, a.reads s = true := by
  unfold warnings warningsOf
  rw [List.filterMap_eq_nil_iff]
  constructor
  · intro h s
    by_contra hreads
    have hnone := h s s.mem_all
    rw [if_neg hreads, Option.map_eq_none_iff] at hnone
    exact hreads (by rw [reads, hnone, Option.all_none])
  · intro h s _
    rw [if_pos (h s)]

lemma readable_eq_self (h : a.warnings = []) : a.readable = a := by
  funext s
  rw [readable, if_pos (warnings_eq_nil_iff.mp h s)]

end Texts

variable {a : Texts} {vars : Variables} {t t' : Thresholds} {ms : Members} {v : Value}
  {depth : ℕ} {tree : FileTree} {path : Text}

/-! ## The environment -/

/-- One setting is changed, or passed over with a warning. -/
lemma assignVariable_eq (hvars : a.InEnvironment vars) (t : Thresholds) (ws : List Text)
    (s : Setting) :
    (assignVariable vars (t, ws) s).2 = ws ++ a.warningsOf [s] ∧
      ∀ ms, a.readable.InObject ms →
        assignMembers ms t [s] = .ok (assignVariable vars (t, ws) s).1 := by
  unfold assignVariable
  rw [hvars s]
  cases htext : a s with
  | none =>
    have hreads : a.reads s = true := by rw [Texts.reads, htext, Option.all_none]
    refine ⟨by simp [Texts.warningsOf, hreads], fun ms hms => ?_⟩
    have hmember : ms.get? s.name = none := by simp [hms s, Texts.readable, htext]
    rw [assignMembers, hmember]
    rfl
  | some text =>
    dsimp only
    cases hassign : t.assign s (.string text) with
    | ok after =>
      have hread : s.Reads (.string text) := assign_isOk_iff.mp ⟨after, hassign⟩
      have hreadable := Texts.readable_eq_some_iff.mpr ⟨htext, hread⟩
      have hreads : a.reads s = true := by
        refine Texts.reads_iff.mpr fun other hother => ?_
        obtain rfl : text = other := Option.some.inj (htext.symm.trans hother)
        exact hread
      refine ⟨by simp [Texts.warningsOf, hreads], fun ms hms => ?_⟩
      have hmember : ms.get? s.name = some (.string text) := by simp [hms s, hreadable]
      rw [assignMembers, hmember]
      dsimp only
      rw [hassign]
      rfl
    | error fault =>
      have hnone : ¬ s.Reads (.string text) := by
        rintro ⟨n, hn⟩
        rw [assign_eq_error_iff.mp hassign] at hn
        cases hn
      have hreads : ¬ a.reads s = true := fun h => hnone (Texts.reads_iff.mp h text htext)
      refine ⟨by simp [Texts.warningsOf, hreads, htext], fun ms hms => ?_⟩
      have hmember : ms.get? s.name = none := by simp [hms s, Texts.readable, hreads]
      rw [assignMembers, hmember]
      rfl

lemma assignMembers_cons (ms : Members) (t : Thresholds) (s : Setting) (rest : List Setting) :
    assignMembers ms t (s :: rest) =
      assignMembers ms t [s] >>= fun after => assignMembers ms after rest := by
  cases hmember : ms.get? s.name with
  | none => simp [assignMembers, hmember, bind, Except.bind]
  | some v =>
    simp only [assignMembers, hmember]
    cases t.assign s v <;> rfl

/-- The settings are followed in turn: warnings are added, and the thresholds are those that the
readable texts give. -/
lemma foldl_assignVariable (hvars : a.InEnvironment vars) (settings : List Setting)
    (t : Thresholds) (ws : List Text) :
    (settings.foldl (assignVariable vars) (t, ws)).2 = ws ++ a.warningsOf settings ∧
      ∀ ms, a.readable.InObject ms →
        assignMembers ms t settings = .ok (settings.foldl (assignVariable vars) (t, ws)).1 := by
  induction settings generalizing t ws with
  | nil => exact ⟨(List.append_nil ws).symm, fun _ _ => rfl⟩
  | cons s rest ih =>
    obtain ⟨hwarning, hstep⟩ := assignVariable_eq hvars t ws s
    obtain ⟨hwarnings, hrest⟩ := ih (assignVariable vars (t, ws) s).1
      (assignVariable vars (t, ws) s).2
    have hfront : a.warningsOf (s :: rest) = a.warningsOf [s] ++ a.warningsOf rest := by
      rw [Texts.warningsOf, Texts.warningsOf, Texts.warningsOf, ← List.filterMap_append]
      rfl
    constructor
    · rw [hfront, ← List.append_assoc, ← hwarning]
      exact hwarnings
    · intro ms hms
      rw [assignMembers_cons, hstep ms hms]
      exact hrest ms hms

lemma warnings_eq (hvars : a.InEnvironment vars) : (ofVariables vars).2 = a.warnings :=
  (foldl_assignVariable hvars Setting.all {} []).1

lemma assignMembers_readable (hvars : a.InEnvironment vars) (hms : a.readable.InObject ms) :
    assignMembers ms {} Setting.all = .ok (ofVariables vars).1 :=
  (foldl_assignVariable hvars Setting.all {} []).2 ms hms

/-! ## The file -/

lemma load_of_settingObject (hfile : tree.isFile (Path.ofText path) = true)
    (hread : tree.readJson depth (Path.ofText path).text = .ok v) (hobject : SettingObject v ms) :
    load depth tree path =
      ((assignMembers ms {} Setting.all).mapError .setting).mapError .shape := by
  have hvalue : ofValue v = (assignMembers ms {} Setting.all).mapError .setting := by
    cases hrow : assignMembers ms {} Setting.all with
    | ok t => exact ofValue_eq_ok_iff.mpr ⟨ms, hobject, hrow⟩
    | error fault => exact ofValue_eq_setting_iff.mpr ⟨ms, hobject, hrow⟩
  rw [load_of_isFile hfile, hread, ← hvalue]
  rfl

/-- A text is never too large for a setting: what it writes is read, or it is no number. -/
lemma read_string_ne_tooLarge {s : Setting} {text : Text} :
    s.read (.string text) ≠ .error .tooLarge := by
  intro h
  obtain ⟨-, n, hn, -⟩ := Setting.read_eq_tooLarge_iff.mp h
  cases hn

/-- An object of texts of which some cannot be read is refused for one of them. -/
lemma exists_fault (hms : a.InObject ms) (hwarnings : a.warnings ≠ []) :
    ∃ fault, fault ≠ .tooLarge ∧ assignMembers ms {} Setting.all = .error fault := by
  have hnone : ¬ ∃ t, assignMembers ms {} Setting.all = .ok t := by
    rintro ⟨t, hrow⟩
    refine hwarnings (Texts.warnings_eq_nil_iff.mpr fun s => Texts.reads_iff.mpr ?_)
    intro text htext
    have hsettles := assignMembers_eq_ok_iff.mp hrow s
    unfold Settles at hsettles
    rw [hms s, htext] at hsettles
    exact ⟨_, hsettles⟩
  obtain ⟨fault, hfault⟩ := Outcome.not_isOk_iff.mp hnone
  refine ⟨fault, ?_, hfault⟩
  rintro rfl
  obtain ⟨_, s, _, v, -, -, hv, hread⟩ := assignMembers_eq_error_iff.mp hfault
  rw [hms s, Option.map_eq_some_iff] at hv
  obtain ⟨text, -, rfl⟩ := hv
  exact read_string_ne_tooLarge hread

/-! ## Both -/

/-- The file is refused if and only if the environment warns, and otherwise both give the same.  In
any case the environment gives what a file of the readable texts gives, and warns once about each
other text.  It can pass over all of these, for none has the one fault that is no error of a
value. -/
theorem loaders_agree (hvars : a.InEnvironment vars) (hfile : a.InFile depth tree path) :
    (∀ s text fault, a s = some text → s.read (.string text) = .error fault →
      fault ≠ .tooLarge) ∧
    ((∃ fault, fault ≠ .tooLarge ∧ load depth tree path = .error (.shape (.setting fault))) ↔
      (ofVariables vars).2 ≠ []) ∧
    ((ofVariables vars).2 = [] → load depth tree path = .ok (ofVariables vars).1) ∧
    (∀ depth' tree' path', a.readable.InFile depth' tree' path' →
      load depth' tree' path' = .ok (ofVariables vars).1) ∧
    (ofVariables vars).2 = a.warnings := by
  have hwarnings := warnings_eq hvars
  have hreadable : ∀ depth' tree' path', a.readable.InFile depth' tree' path' →
      load depth' tree' path' = .ok (ofVariables vars).1 := by
    rintro depth' tree' path' ⟨hthere, v, ms, hread, hobject, hms⟩
    rw [load_of_settingObject hthere hread hobject, assignMembers_readable hvars hms]
    rfl
  have hclean : (ofVariables vars).2 = [] → load depth tree path = .ok (ofVariables vars).1 := by
    intro hnone
    rw [hwarnings] at hnone
    exact hreadable depth tree path ((Texts.readable_eq_self hnone).symm ▸ hfile)
  refine ⟨fun s text fault _ hread hlarge => ?_, ⟨?_, ?_⟩, hclean, hreadable, hwarnings⟩
  · rw [hlarge] at hread
    exact read_string_ne_tooLarge hread
  · rintro ⟨fault, -, hload⟩ hnone
    rw [hclean hnone] at hload
    cases hload
  · intro hsome
    rw [hwarnings] at hsome
    obtain ⟨hthere, v, ms, hread, hobject, hms⟩ := hfile
    obtain ⟨fault, hsmall, hfault⟩ := exists_fault hms hsome
    exact ⟨fault, hsmall, by rw [load_of_settingObject hthere hread hobject, hfault]; rfl⟩

/-- Texts for two settings, of which one cannot be read. -/
def mixedTexts : Texts
  | .nameMaxLength => some " 8_0 "
  | .ratingMax => some "5,0"
  | _ => none

/-- The environment of these texts. -/
def mixedVariables : Variables :=
  [("SCHEMACHECK_THRESHOLD_NAME_MAX_LENGTH", " 8_0 "),
    ("SCHEMACHECK_THRESHOLD_RATING_MAX", "5,0")]

/-- The object of these texts. -/
def mixedMembers : Members := [("name_max_length", .string " 8_0 "), ("rating_max", .string "5,0")]

/-- A directory with the file of these texts. -/
def mixedTree : FileTree :=
  ⟨[(["limits.json"], .file (Utf8.octets (Json.pretty (.object mixedMembers))))]⟩

theorem mixedTexts_agree :
    mixedTexts.InEnvironment mixedVariables ∧ mixedTexts.InFile 900 mixedTree "limits.json" ∧
    (ofVariables mixedVariables).2 ≠ [] ∧ (ofVariables mixedVariables).2 = mixedTexts.warnings ∧
    ∃ fault, fault ≠ .tooLarge ∧
      load 900 mixedTree "limits.json" = .error (.shape (.setting fault)) := by
  have hvars : mixedTexts.InEnvironment mixedVariables := by
    intro s
    cases s <;> decide
  have hfile : mixedTexts.InFile 900 mixedTree "limits.json" := by
    have hplain : (Value.object mixedMembers).Plain 900 := by
      have hvalue : (Value.object mixedMembers).Plain 1 := by
        refine .object (by decide) fun m hm => ?_
        simp only [mixedMembers, List.mem_cons, List.not_mem_nil, or_false] at hm
        rcases hm with rfl | rfl <;> exact .string 0 _
      exact hvalue.mono (by decide)
    refine ⟨rfl, .object mixedMembers, mixedMembers, ?_, .inr ⟨rfl, rfl⟩, fun s => ?_⟩
    · exact FileTree.readJson_pretty hplain (by decide +kernel) rfl
    · cases s <;> rfl
  have hsome : (ofVariables mixedVariables).2 ≠ [] := by decide +kernel
  obtain ⟨-, hrefused, -, -, hwarnings⟩ := loaders_agree hvars hfile
  exact ⟨hvars, hfile, hsome, hwarnings, hrefused.mpr hsome⟩

end Thresholds

end StructuredData
