import StructuredData.Proofs.CommandLine.PageVerdict
import StructuredData.Proofs.Validator.Limits

/-!
# Limits and the exit code

The limits that are set for a run decide which warnings it gives and which score, and nothing else:
they make no error and take none away, and so the code with which a run over documents ends is that
which any other limits would have led to.
-/

namespace StructuredData

lemma PageReport.Aggregates.all_isValid_iff {r : PageReport} {v : Validator} {depth page : ℕ}
    {ss : List Submission} (h : r.Aggregates v depth page ss) :
    (r.documents.all fun d => d.findings.isValid) = true ↔ ∀ s ∈ ss, v.Passes depth s := by
  have hdocuments := h.documents
  rw [List.all_eq_true]
  clear h
  generalize r.documents = documents at hdocuments
  induction hdocuments with
  | nil => exact iff_of_true nofun nofun
  | cons hs _ ih =>
    rw [List.forall_mem_cons, List.forall_mem_cons]
    exact and_congr (Validator.passes_iff_of_validate hs.2).symm ih

namespace CommandLine

open Session

variable {place : Surroundings × LogTarget} {c c' : Console} {thresholdsPath : Option Text}
  {code : ℕ}

/-- The submissions that a command validates, as the files are, and the depth up to which it reads
them. -/
inductive Command.Validates (s : Surroundings) (tree : FileTree) :
    Command → ℕ → List Submission → Prop
  | document {file type : Text} {output : DocumentOutput} {outputFile : Option Text} {text : Text}
      (h : tree.readLines (Path.ofText file).text = .ok text) :
      Validates s tree (.validate file type output outputFile) s.depths.alone [.ofTexts type text]
  | page {file : Text} {output : PageOutput} {outputFile outputDirectory : Option Text}
      {workers : ℤ} {ss : List Submission} (h : Batch.load s.batchDepth tree file = .ok ss) :
      Validates s tree (.batch file output outputFile outputDirectory workers)
        (Validator.depthAtWork s.depths (some workers) ss) ss

lemma exitCode_eq_zero_iff {isValid : Bool} : exitCode isValid = 0 ↔ isValid = true := by
  cases isValid <;> decide

/-! ## What a command has done when it ends with a code -/

lemma runValidate_eq_ok {file type : Text} {output : DocumentOutput} {outputFile : Option Text}
    (h : runOn (runValidate thresholdsPath file type output outputFile) place c =
      (.ok code, c')) :
    ∃ text v after fs, c.tree.readLines (Path.ofText file).text = .ok text ∧
      runOn (loadValidator thresholdsPath) place c = (.ok v, after) ∧
      v.validate place.1.depths.alone (.ofTexts type text) = .ok fs ∧
      code = exitCode fs.isValid := by
  obtain ⟨t, c₁, ht, hreading⟩ := runOn_bind_eq_ok.mp h
  cases ht
  obtain ⟨text, c₂, htext, hvalidator⟩ := runOn_bind_eq_ok.mp hreading
  obtain ⟨hread, rfl⟩ := runOn_ofExcept_eq_ok.mp htext
  obtain ⟨v, after, hv, hdepth⟩ := runOn_bind_eq_ok.mp hvalidator
  obtain ⟨s, c₃, hs, hlogging⟩ := runOn_bind_eq_ok.mp hdepth
  cases hs
  obtain ⟨_, c₄, -, hvalidation⟩ := runOn_bind_eq_ok.mp hlogging
  obtain ⟨fs, c₅, hfs, hdelivery⟩ := runOn_bind_eq_ok.mp hvalidation
  obtain ⟨hvalidate, -⟩ := runOn_ofExcept_eq_ok.mp hfs
  refine ⟨text, v, after, fs, hread, hv, hvalidate, ?_⟩
  -- what remains delivers the findings
  refine (?_ : OnlyResult _ _) _ _ _ _ hdelivery
  cases output <;> exact onlyResult_bind fun _ => onlyResult_pure _

lemma runThresholds_eq_ok {save : Option Text}
    (h : runOn (runThresholds thresholdsPath save) place c = (.ok code, c')) : code = 0 := by
  obtain ⟨t, c₁, -, hdelivery⟩ := runOn_bind_eq_ok.mp h
  refine (?_ : OnlyResult _ _) _ _ _ _ hdelivery
  cases nonempty save with
  | none => exact onlyResult_bind fun _ => onlyResult_pure _
  | some path => exact onlyResult_bind fun _ => onlyResult_bind fun _ => onlyResult_pure _

/-- A command over documents ends with the code that says whether all of them pass. -/
lemma runCommand_eq_ok {command : Command} (hcommand : ∀ save, command ≠ .thresholds save)
    (h : runOn (runCommand thresholdsPath command) place c = (.ok code, c')) :
    ∃ depth ss v after isValid, command.Validates place.1 c.tree depth ss ∧
      runOn (loadValidator thresholdsPath) place c = (.ok v, after) ∧
      code = exitCode isValid ∧ (isValid = true ↔ ∀ s ∈ ss, v.Passes depth s) := by
  cases command with
  | validate file type output outputFile =>
    obtain ⟨text, v, after, fs, hread, hv, hvalidate, hcode⟩ := runValidate_eq_ok h
    refine ⟨_, _, v, after, fs.isValid, .document hread, hv, hcode, ?_⟩
    rw [List.forall_mem_singleton, Validator.passes_iff_of_validate hvalidate]
  | batch file output outputFile outputDirectory workers =>
    obtain ⟨ss, v, after, r, hload, hv, hpage, hcode⟩ := runBatch_eq_ok h
    have haggregates := Validator.aggregates_of_validatePage hpage
    exact ⟨_, ss, v, after, _, .page hload, hv, hcode, haggregates.all_isValid_iff⟩
  | thresholds save => exact absurd rfl (hcommand save)

/-- Thresholds decide over warnings only, and the more permissive ones give no more of them.  A run
over documents that is not rejected ends with the code 0 or 1, and it is 0 if and only if all
documents pass under the thresholds that the run has loaded, or under any others; a run that shows
thresholds ends with the code 0, whatever they are. -/
theorem thresholds_tune_warnings :
    (∀ (table : RequirementTable) (t t' : Thresholds) (depth : ℕ) (s : Submission),
      Outcome.Alike (fun fs fs' => fs.errors = fs'.errors ∧ fs.info = fs'.info ∧
          fs.isValid = fs'.isValid ∧
          (t'.AtLeastAsPermissive t →
            fs'.warnings.length ≤ fs.warnings.length ∧ fs.score ≤ fs'.score))
        ((Validator.mk table t).validate depth s) ((Validator.mk table t').validate depth s)) ∧
    ∀ (s : Surroundings) (tree : FileTree) (line : List Text) (arguments : Arguments)
      (command : Command) (code : ℕ), Arguments.read line = .ok arguments →
      arguments.command = some command → (run s tree line).result = .ok code → code ≠ usageCode →
      (∀ save, command = .thresholds save → code = 0) ∧
      ((∀ save, command ≠ .thresholds save) →
        ∃ c depth ss v after,
          runOn openLog (s, logTarget s.settings arguments) ⟨tree, [], []⟩ = (.ok (), c) ∧
          command.Validates s c.tree depth ss ∧
          runOn (loadValidator arguments.thresholds) (s, logTarget s.settings arguments) c =
            (.ok v, after) ∧
          (code = 0 ∨ code = 1) ∧
          ∀ t, code = 0 ↔ ∀ d ∈ ss, (Validator.mk v.table t).Passes depth d) := by
  constructor
  · intro table t t' depth s
    refine (Validator.validate_underLimits table t t' depth s).imp fun fs fs' hagree => ?_
    have hvalid : fs.isValid = fs'.isValid := by
      unfold Findings.isValid
      rw [hagree.errors]
    exact ⟨hagree.errors, hagree.info, hvalid, fun hpermissive =>
      ⟨hagree.warnings hpermissive, Findings.score_le hagree hpermissive⟩⟩
  · intro s tree line arguments command code hline hcommand hresult hcode
    obtain ⟨c, c', hopen, hreporting⟩ := run_result_eq_ok hline hcommand hresult
    have hrun := runReporting_eq_ok hreporting hcode
    constructor
    · rintro save rfl
      exact runThresholds_eq_ok hrun
    · intro hvalidates
      obtain ⟨depth, ss, v, after, isValid, hss, hv, rfl, hpass⟩ :=
        runCommand_eq_ok hvalidates hrun
      refine ⟨c, depth, ss, v, after, hopen, hss, hv, ?_, fun t => ?_⟩
      · cases isValid
        · exact .inr rfl
        · exact .inl rfl
      · rw [exitCode_eq_zero_iff, hpass]
        exact forall₂_congr fun d _ => Validator.passes_iff v.table v.thresholds t depth d

/-- Limits on which only the lengths of descriptions and the least rating are other than usual. -/
def laxLimits : Thresholds :=
  { descriptionMinLength := 5
    descriptionVeryShortLength := 5
    ratingMin := .float (.infinity true) }

/-- A person of whom little is said, and who is rated. -/
def shortNote : Text :=
  "\x7b\"@type\": \"Person\", \"description\": \"A poet.\", " ++
    "\"aggregateRating\": \x7b\"ratingValue\": 0\x7d\x7d"

/-- A directory with the note. -/
def shortNoteTree : FileTree := ⟨[(["note.json"], .file (Utf8.octets shortNote))]⟩

theorem shortNote_under_laxLimits :
    laxLimits.AtLeastAsPermissive {} ∧
    (∃ fs fs',
      (Validator.mk RequirementTable.packaged {}).validate 985 (.ofTexts "Person" shortNote) =
        .ok fs ∧
      (Validator.mk RequirementTable.packaged laxLimits).validate 985
        (.ofTexts "Person" shortNote) = .ok fs' ∧
      fs.errors = fs'.errors ∧ fs'.warnings.length ≤ fs.warnings.length ∧ fs.score ≤ fs'.score) ∧
    (run bareSurroundings shortNoteTree ["validate", "note.json", "--type", "Person"]).result =
      .ok 1 ∧
    ∃ (c : Console) (depth : ℕ) (ss : List Submission) (v : Validator),
      (Command.validate "note.json" "Person" .text none).Validates bareSurroundings c.tree depth
        ss ∧
      ∀ t, ¬ ∀ d ∈ ss, (Validator.mk v.table t).Passes depth d := by
  have hlax : laxLimits.AtLeastAsPermissive {} := by
    constructor <;> decide +kernel
  have hok : ((Validator.mk RequirementTable.packaged {}).validate 985
      (.ofTexts "Person" shortNote)).toOption.isSome = true := by
    decide +kernel
  obtain ⟨fs, hfs⟩ := Outcome.exists_eq_ok_of_isSome hok
  obtain ⟨htune, hcodes⟩ := thresholds_tune_warnings
  have halike := htune RequirementTable.packaged {} laxLimits 985 (.ofTexts "Person" shortNote)
  rw [hfs] at halike
  obtain ⟨fs', hfs', herrors, -, -, hfewer⟩ := halike.exists_of_ok
  obtain ⟨hwarnings, hscore⟩ := hfewer hlax
  have hline : Arguments.read ["validate", "note.json", "--type", "Person"] =
      .ok ⟨none, none, none, some (.validate "note.json" "Person" .text none)⟩ :=
    Outcome.eq_ok_of_toOption (by decide +kernel)
  have hresult : (run bareSurroundings shortNoteTree
      ["validate", "note.json", "--type", "Person"]).result = .ok 1 :=
    Outcome.eq_ok_of_toOption (by decide +kernel)
  obtain ⟨c, depth, ss, v, -, -, hss, -, -, hpass⟩ :=
    (hcodes bareSurroundings shortNoteTree _ _ _ _ hline rfl hresult (by decide)).2 nofun
  refine ⟨hlax, ⟨fs, fs', hfs, hfs', herrors, hwarnings, hscore⟩, hresult, c, depth, ss, v, hss, ?_⟩
  intro t hall
  exact absurd ((hpass t).mpr hall) (by decide)

end CommandLine

end StructuredData
