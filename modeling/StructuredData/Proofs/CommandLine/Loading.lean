import StructuredData.Proofs.CommandLine.Session
import StructuredData.Proofs.Files.JsonFiles

/-!
# Which contents of a file are rejected

A batch file gives documents or is rejected, and a thresholds file gives thresholds or is rejected,
with two exceptions: text that nests deeper than it can be read at this point of the program, and a
limit on ratings that is too large.  Either of them ends the run with a failure of its own, where a
rejection makes the program say so and end with the code for it.
-/

namespace StructuredData

namespace Failure

/-- The faults of a thresholds file that are not taken for rejections. -/
lemma ofThresholds_eq_input_iff {path : Text} {fault : Thresholds.LoadFault} :
    (∃ rejection, ofThresholds path fault = .input rejection) ↔
      fault ≠ .shape (.setting .tooLarge) ∧
      ∀ text container, fault ≠ .file (.unparsed text (.tooDeep container)) := by
  unfold ofThresholds
  split
  · simp
  · simp
  · next hlarge hdeep =>
    exact iff_of_true ⟨_, rfl⟩ ⟨hlarge, fun text container => hdeep text container⟩

lemma isRejection_ofThresholds {path : Text} {fault : Thresholds.LoadFault} :
    (ofThresholds path fault).isRejection = true ↔
      ∃ rejection, ofThresholds path fault = .input rejection := by
  unfold ofThresholds
  split <;> simp [isRejection]

end Failure

namespace CommandLine

open Session

variable {place : Surroundings × LogTarget} {c : Console} {path : Option Text} {name : Text}
  {depth : ℕ}

/-! ## Loading thresholds -/

/-- The contents of the thresholds file are neither thresholds nor rejected. -/
def ContentsEscape (depth : ℕ) (tree : FileTree) (name : Text) : Prop :=
  tree.isFile (Path.ofText name) = true ∧
    (tree.NestsTooDeep depth (Path.ofText name).text ∨
      tree.WritesHugeLimit depth (Path.ofText name).text)

/-- The thresholds file that is named, if one is, can neither be loaded nor is it rejected: its path
has a name that is too long, or its contents escape. -/
def ThresholdsEscape (depth : ℕ) (tree : FileTree) (path : Option Text) : Prop :=
  ∃ name, nonempty path = some name ∧
    ((∃ fault, tree.exists? (Path.ofText name) = .error fault) ∨ ContentsEscape depth tree name)

/-- What loading the file of a name ends with. -/
def thresholdsOf (depth : ℕ) (tree : FileTree) (name : Text) : Except Failure Thresholds :=
  match tree.exists? (Path.ofText name) with
  | .error fault => .error (.file fault)
  | .ok _ =>
    if tree.isFile (Path.ofText name) then
      (Thresholds.load depth tree name).mapError (Failure.ofThresholds name)
    else .error (.input (.missingThresholds name))

lemma runOn_loadThresholds_some (hname : nonempty path = some name) :
    runOn (loadThresholds path) place c =
      (thresholdsOf place.1.thresholdsDepth c.tree name, c) := by
  unfold loadThresholds thresholdsOf
  rw [hname]
  dsimp only
  rw [runOn_bind, runOn_tree]
  dsimp only
  rw [runOn_bind, runOn_ofExcept]
  cases c.tree.exists? (Path.ofText name) with
  | error fault => rfl
  | ok found =>
    cases hfile : c.tree.isFile (Path.ofText name) with
    | false => rfl
    | true =>
      simp only [Except.mapError, if_true]
      exact (runOn_bind_of_ok runOn_surroundings).trans (runOn_ofExcept _ _)

lemma runOn_loadThresholds_none (hname : nonempty path = none) :
    ∃ t c', runOn (loadThresholds path) place c = (.ok t, c') := by
  unfold loadThresholds
  rw [hname]
  dsimp only
  rw [runOn_bind, runOn_surroundings]
  dsimp only
  rw [runOn_bind, runOn_logAll]
  exact ⟨_, _, rfl⟩

/-- Loading the file of a name gives thresholds or a rejection unless it escapes. -/
lemma thresholdsOf_iff {tree : FileTree} :
    ((∃ t, thresholdsOf depth tree name = .ok t) ∨
      ∃ rejection, thresholdsOf depth tree name = .error (.input rejection)) ↔
    ¬ ((∃ fault, tree.exists? (Path.ofText name) = .error fault) ∨
      ContentsEscape depth tree name) := by
  unfold thresholdsOf ContentsEscape
  cases hexists : tree.exists? (Path.ofText name) with
  | error fault => simp
  | ok found =>
    cases hfile : tree.isFile (Path.ofText name) with
    | false => simp
    | true =>
      rw [← Thresholds.load_eq_tooDeep_iff hfile, ← Thresholds.load_eq_tooLarge_iff hfile]
      cases Thresholds.load depth tree name with
      | ok t => simp [Except.mapError]
      | error fault =>
        have hinput : (∃ rejection, Failure.ofThresholds name fault = .input rejection) ↔ _ :=
          Failure.ofThresholds_eq_input_iff
        simp only [Except.mapError, if_true, reduceCtorEq, exists_false, false_or,
          Except.error.injEq, hinput, true_and, not_or, not_exists]
        exact and_comm

/-- The only failures of loading thresholds that are rejections are those of an input. -/
lemma isRejection_iff_of_thresholdsOf {tree : FileTree} {f : Failure}
    (h : thresholdsOf depth tree name = .error f) :
    f.isRejection = true ↔ ∃ rejection, f = .input rejection := by
  unfold thresholdsOf at h
  split at h
  · cases h
    simp [Failure.isRejection]
  · split_ifs at h
    · obtain ⟨fault, -, rfl⟩ := Outcome.mapError_eq_error.mp h
      exact Failure.isRejection_ofThresholds
    · cases h
      simp [Failure.isRejection]

lemma loadThresholds_iff (place : Surroundings × LogTarget) :
    ((∃ t c', runOn (loadThresholds path) place c = (.ok t, c')) ∨
      ∃ rejection c', runOn (loadThresholds path) place c = (.error (.input rejection), c')) ↔
    ¬ ThresholdsEscape place.1.thresholdsDepth c.tree path := by
  unfold ThresholdsEscape
  cases hname : nonempty path with
  | none =>
    refine iff_of_true (.inl (runOn_loadThresholds_none hname)) ?_
    rintro ⟨_, h, -⟩
    cases h
  | some name =>
    simp only [runOn_loadThresholds_some hname, Prod.mk.injEq, exists_and_left, exists_eq',
      and_true, Option.some.injEq, exists_eq_left', thresholdsOf_iff]

/-- Where thresholds are not loaded, there is a failure, and it is a rejection unless the file
escapes. -/
lemma exists_error_of_not_loadThresholds
    (h : ¬ ∃ t c', runOn (loadThresholds path) place c = (.ok t, c')) :
    ∃ f c', runOn (loadThresholds path) place c = (.error f, c') ∧
      (f.isRejection = true ↔ ¬ ThresholdsEscape place.1.thresholdsDepth c.tree path) := by
  rw [← loadThresholds_iff place]
  cases hname : nonempty path with
  | none => exact absurd (runOn_loadThresholds_none hname) h
  | some name =>
    simp only [runOn_loadThresholds_some hname] at h ⊢
    have hnone : ¬ ∃ t, thresholdsOf place.1.thresholdsDepth c.tree name = .ok t := by
      rintro ⟨t, ht⟩
      exact h ⟨t, c, by rw [ht]⟩
    obtain ⟨f, hf⟩ := Outcome.not_isOk_iff.mp hnone
    refine ⟨f, c, by rw [hf], ?_⟩
    rw [isRejection_iff_of_thresholdsOf hf, hf]
    simp

/-! ## The code that a run ends with -/

/-- The files of documents that a command reads can be read, so that thresholds are what it loads
next. -/
def ReachesThresholds (depth : ℕ) (tree : FileTree) : Command → Prop
  | .validate file _ _ _ => ∃ text, tree.readLines (Path.ofText file).text = .ok text
  | .batch file _ _ _ _ => ∃ ss, Batch.load depth tree file = .ok ss
  | .thresholds _ => True

/-- A command fails as loading its thresholds does. -/
lemma runCommand_of_loadThresholds {command : Command} {f : Failure} {c' : Console}
    (hreach : ReachesThresholds place.1.batchDepth c.tree command)
    (h : runOn (loadThresholds path) place c = (.error f, c')) :
    runOn (runCommand path command) place c = (.error f, c') := by
  have hvalidator : runOn (loadValidator path) place c = (.error f, c') :=
    runOn_bind_eq_error.mpr (.inl h)
  cases command with
  | validate file type output outputFile =>
    obtain ⟨text, htext⟩ := hreach
    have hread : runOn (ofExcept (fun fault => Failure.input (.document file fault))
        (c.tree.readLines (Path.ofText file).text)) place c = (.ok text, c) :=
      runOn_ofExcept_eq_ok.mpr ⟨htext, rfl⟩
    exact runOn_bind_eq_error.mpr (.inr ⟨c.tree, c, rfl,
      runOn_bind_eq_error.mpr (.inr ⟨text, c, hread, runOn_bind_eq_error.mpr (.inl hvalidator)⟩)⟩)
  | batch file output outputFile outputDirectory workers =>
    obtain ⟨ss, hss⟩ := hreach
    have hread : runOn (ofExcept Failure.ofBatch (Batch.load place.1.batchDepth c.tree file))
        place c = (.ok ss, c) :=
      runOn_ofExcept_eq_ok.mpr ⟨hss, rfl⟩
    exact runOn_bind_eq_error.mpr (.inr ⟨place.1, c, rfl,
      runOn_bind_eq_error.mpr (.inr ⟨c.tree, c, rfl, runOn_bind_eq_error.mpr
        (.inr ⟨ss, c, hread, runOn_bind_eq_error.mpr (.inl hvalidator)⟩)⟩)⟩)
  | thresholds save => exact runOn_bind_eq_error.mpr (.inl h)

/-- A batch file that cannot be loaded is what its command fails with. -/
lemma runCommand_of_load {file : Text} {output : PageOutput}
    {outputFile outputDirectory : Option Text} {workers : ℤ} {fault : Batch.Fault}
    (h : Batch.load place.1.batchDepth c.tree file = .error fault) :
    runOn (runCommand path (.batch file output outputFile outputDirectory workers)) place c =
      (.error (Failure.ofBatch fault), c) := by
  have hread : runOn (ofExcept Failure.ofBatch (Batch.load place.1.batchDepth c.tree file))
      place c = (.error (Failure.ofBatch fault), c) :=
    runOn_ofExcept_eq_error.mpr ⟨⟨fault, h, rfl⟩, rfl⟩
  exact runOn_bind_eq_error.mpr (.inr ⟨place.1, c, rfl,
    runOn_bind_eq_error.mpr (.inr ⟨c.tree, c, rfl, runOn_bind_eq_error.mpr (.inl hread)⟩)⟩)

/-- A command that fails ends with the code for rejections if the failure is one, and with no code
otherwise. -/
lemma runReporting_of_error {command : Command} {f : Failure} {c' : Console}
    (h : runOn (runCommand path command) place c = (.error f, c')) :
    (∃ after, runOn (runReporting path command) place c = (.ok usageCode, after)) ↔
      f.isRejection = true := by
  unfold runReporting
  rw [runOn_tryCatch, h]
  dsimp only
  split_ifs with hrejection
  · exact iff_of_true ⟨_, rfl⟩ hrejection
  · refine iff_of_false ?_ hrejection
    rintro ⟨after, h⟩
    cases h

/-- A batch file gives documents or is rejected unless it nests deeper than it can be read where
batch files are loaded; the thresholds of a run are loaded or rejected unless they escape.  A
command that comes to a file it cannot load ends with the code for rejections under the same
conditions, and with a failure otherwise. -/
theorem rejected_unless_escapes (place : Surroundings × LogTarget) (c : Console)
    (path : Option Text) :
    (∀ file : Text,
      ((∃ ss, Batch.load place.1.batchDepth c.tree file = .ok ss) ∨
        ∃ rejection, Batch.load place.1.batchDepth c.tree file = .error (.rejected rejection)) ↔
      ¬ c.tree.NestsTooDeep place.1.batchDepth file) ∧
    (((∃ t c', runOn (loadThresholds path) place c = (.ok t, c')) ∨
        ∃ rejection c', runOn (loadThresholds path) place c = (.error (.input rejection), c')) ↔
      ¬ ThresholdsEscape place.1.thresholdsDepth c.tree path) ∧
    (∀ (file : Text) (output : PageOutput) (outputFile outputDirectory : Option Text) (workers : ℤ),
      (¬ ∃ ss, Batch.load place.1.batchDepth c.tree file = .ok ss) →
      ((∃ c', runOn (runReporting path (.batch file output outputFile outputDirectory workers))
          place c = (.ok usageCode, c')) ↔
        ¬ c.tree.NestsTooDeep place.1.batchDepth file)) ∧
    ∀ command : Command, ReachesThresholds place.1.batchDepth c.tree command →
      (¬ ∃ t c', runOn (loadThresholds path) place c = (.ok t, c')) →
      ((∃ c', runOn (runReporting path command) place c = (.ok usageCode, c')) ↔
        ¬ ThresholdsEscape place.1.thresholdsDepth c.tree path) := by
  refine ⟨?_, loadThresholds_iff place, ?_, ?_⟩
  · intro file
    rw [← Batch.load_eq_tooDeep_iff]
    cases Batch.load place.1.batchDepth c.tree file with
    | ok ss => simp
    | error fault => cases fault <;> simp
  · intro file output outputFile outputDirectory workers hnone
    obtain ⟨fault, hfault⟩ := Outcome.not_isOk_iff.mp hnone
    rw [runReporting_of_error (runCommand_of_load hfault), ← Batch.load_eq_tooDeep_iff, hfault]
    cases fault <;> simp [Failure.ofBatch, Failure.isRejection]
  · intro command hreach hnone
    obtain ⟨f, c', hf, hrejection⟩ := exists_error_of_not_loadThresholds hnone
    rw [runReporting_of_error (runCommand_of_loadThresholds hreach hf)]
    exact hrejection

/-- A console on a directory with a batch file that breaks off and a thresholds file that holds no
object. -/
def brokenFiles : Console :=
  ⟨⟨[(["page.json"], .file (Utf8.octets ("[" : Text))),
    (["limits.json"], .file (Utf8.octets ("[]" : Text)))]⟩, [], []⟩

/-- A target that no log record reaches. -/
def silentTarget : LogTarget := ⟨100, none⟩

theorem brokenFiles_rejected :
    (∃ c', runOn (runReporting none (.batch "page.json" .text none none 1))
      (bareSurroundings, silentTarget) brokenFiles = (.ok usageCode, c')) ∧
    ∃ c', runOn (runReporting (some "limits.json") (.thresholds none))
      (bareSurroundings, silentTarget) brokenFiles = (.ok usageCode, c') := by
  have hbatch : ∃ rejection,
      Batch.load bareSurroundings.batchDepth brokenFiles.tree "page.json" =
        .error (.rejected rejection) := ⟨_, rfl⟩
  have hlimits : ∃ rejection c', runOn (loadThresholds (some "limits.json"))
      (bareSurroundings, silentTarget) brokenFiles = (.error (.input rejection), c') :=
    ⟨_, _, rfl⟩
  obtain ⟨hload, -, hbatchCode, -⟩ :=
    rejected_unless_escapes (bareSurroundings, silentTarget) brokenFiles none
  obtain ⟨-, hthresholds, -, hcode⟩ :=
    rejected_unless_escapes (bareSurroundings, silentTarget) brokenFiles (some "limits.json")
  constructor
  · refine (hbatchCode "page.json" .text none none 1 ?_).mpr ?_
    · rintro ⟨ss, hss⟩
      obtain ⟨rejection, h⟩ := hbatch
      rw [h] at hss
      cases hss
    · exact (hload "page.json").mp (.inr hbatch)
  · refine (hcode (.thresholds none) trivial ?_).mpr ?_
    · rintro ⟨t, c', ht⟩
      obtain ⟨rejection, c'', h⟩ := hlimits
      rw [h] at ht
      cases ht
    · exact hthresholds.mp (.inr hlimits)

/-- A directory with a batch file that nests deeper than any text can be read, and with a thresholds
file whose limit is ten to the power 309. -/
def unreportedFiles : FileTree :=
  ⟨[(["page.json"], .file (Utf8.octets (List.replicate 2000 (CodePoint.ofChar '[')))),
    (["limits.json"], .file (Utf8.octets (Text.ofString "\x7b\"rating_max\": 1" ++
      List.replicate 309 (CodePoint.ofChar '0') ++ Text.ofString "\x7d")))]⟩

theorem unreportedFiles_escape :
    (¬ ∃ code, (run bareSurroundings unreportedFiles ["batch", "page.json"]).result = .ok code) ∧
      ¬ ∃ code, (run bareSurroundings unreportedFiles
        ["--thresholds", "limits.json", "thresholds"]).result = .ok code := by
  have hbatch :
      (run bareSurroundings unreportedFiles ["batch", "page.json"]).result.toOption = none := by
    decide +kernel
  have hlimits : (run bareSurroundings unreportedFiles
      ["--thresholds", "limits.json", "thresholds"]).result.toOption = none := by
    decide +kernel
  constructor
  · rintro ⟨code, h⟩
    rw [h] at hbatch
    cases hbatch
  · rintro ⟨code, h⟩
    rw [h] at hlimits
    cases hlimits

end CommandLine

end StructuredData
