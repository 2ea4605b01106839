import StructuredData.Proofs.Archive.Run
import StructuredData.Proofs.CommandLine.Logging
import StructuredData.Proofs.Json.Depth
import StructuredData.Proofs.Page.Written

/-!
# What a run writes to the standard output

Log records, loading and file operations leave the standard output alone.  So a command over
documents that puts out JSON, and to no file, writes one JSON text and the end of its line there,
unless it is told to save the run as well: then it says where the run is saved, behind the JSON.
Where half of a surrogate pair stands in the text, the command fails and writes nothing.
-/

namespace StructuredData

namespace CommandLine

open Session

variable {place : Surroundings × LogTarget} {c c' : Console} {thresholdsPath : Option Text}

/-! ## Putting out JSON -/

/-- What a command over documents has to put out as JSON, and to no file, and whether its documents
are valid, if the documents can be read from the files and the validator answers. -/
inductive Command.PutsOut (s : Surroundings) (tree : FileTree) (v : Validator) :
    Command → Value → Bool → Prop
  | document {file type text : Text} {outputFile : Option Text} {fs : Findings}
      (hfile : nonempty outputFile = none)
      (hread : tree.readLines (Path.ofText file).text = .ok text)
      (hvalidate : v.validate s.depths.alone (.ofTexts type text) = .ok fs) :
      PutsOut s tree v (.validate file type .json outputFile) fs.toValue fs.isValid
  | page {file : Text} {outputFile outputDirectory : Option Text} {workers : ℤ}
      {ss : List Submission} {r : PageReport} (hfile : nonempty outputFile = none)
      (hload : Batch.load s.batchDepth tree file = .ok ss)
      (hpage : v.validatePage s.depths (some workers) ss = .ok r) :
      PutsOut s tree v (.batch file .json outputFile outputDirectory workers) r.toValue
        (r.documents.all fun d => d.findings.isValid)

/-- The directory of the run that a command saves, if it saves one. -/
def Command.savedRun? (now : Moment) : Command → Option Path
  | .batch file _ _ outputDirectory _ =>
    (nonempty outputDirectory).map fun directory =>
      Archive.runDirectory (Path.ofText directory) (Path.ofText file).stem now
  | _ => none

lemma plain_of_putsOut {s : Surroundings} {tree : FileTree} {v : Validator} {command : Command}
    {value : Value} {isValid : Bool} (h : command.PutsOut s tree v value isValid) :
    value.Plain 6 := by
  cases h with
  | @document _ _ _ _ fs => exact fs.plain_toValue.mono (by decide)
  | page _ hload hpage =>
    have htextual := (Validator.aggregates_of_validatePage hpage).isTextual
      (Batch.isTextual_of_load hload)
    exact PageReport.plain_toValue htextual

lemma exists_runOn_logAll (rs : List LogRecord) (place : Surroundings × LogTarget) (c : Console) :
    ∃ c', runOn (logAll rs) place c = (.ok (), c') ∧ c'.out = c.out := by
  have hout := (logsOnly_logAll rs).out_eq place c
  rw [runOn_logAll] at hout
  exact ⟨_, runOn_logAll rs, hout⟩

lemma deliver_of_none {outputFile : Option Text} (hfile : nonempty outputFile = none)
    (result : Text) : deliver result outputFile = write (result ++ "\n") := by
  unfold deliver
  rw [hfile]
  rfl

/-- A run is not saved, or it is not said where because its path cannot be encoded. -/
inductive SavingFails : Failure → Prop
  | archive (fault : Archive.Fault) : SavingFails (.archive fault)
  | unencodable (e : Utf8.EncodeError) : SavingFails (.unencodable e)

lemma SavingFails.isRejection {f : Failure} (h : SavingFails f) : f.isRejection = false := by
  cases h <;> rfl

/-- Saving a run either says where it is saved, or fails and says nothing. -/
lemma runOn_archiveReport (place : Surroundings × LogTarget) (r : PageReport)
    (file directory : Text) :
    (∃ after, runOn (archiveReport r file directory) place c = (.ok (), after) ∧
      after.out = c.out ++ ("\nResults saved to " ++ (Archive.runDirectory (Path.ofText directory)
        (Path.ofText file).stem place.1.now).text) ++ "\n") ∨
    ∃ f after, runOn (archiveReport r file directory) place c = (.error f, after) ∧
      SavingFails f ∧ after.out = c.out := by
  unfold archiveReport
  rw [runOn_bind, runOn_surroundings]
  dsimp only
  rw [runOn_bind, runOn_filing]
  rcases (Archive.makeBase (Path.ofText directory)).on c.tree with ⟨fault | _, t₁⟩
  · exact .inr ⟨_, _, rfl, .archive fault, rfl⟩
  rw [Except.mapError]
  dsimp only
  rw [runOn_bind, runOn_filing]
  rcases hrun : (Archive.makeRun (Path.ofText directory) (Path.ofText file).stem place.1.now).on t₁
    with ⟨fault | run, t₂⟩
  · exact .inr ⟨_, _, rfl, .archive fault, rfl⟩
  obtain rfl := Archive.Run.eq_runDirectory_of_makeRun hrun
  rw [Except.mapError]
  dsimp only
  rw [runOn_bind, runOn_filing]
  rcases (Archive.save _ r place.1.now).on t₂ with ⟨fault | _, t₃⟩
  · exact .inr ⟨_, _, rfl, .archive fault, rfl⟩
  rw [Except.mapError]
  dsimp only
  rw [runOn_bind, runOn_log]
  dsimp only
  rcases runOn_write _ place _ with hwrite | ⟨e, hwrite⟩
  · refine .inl ⟨_, hwrite, ?_⟩
    dsimp only
    rw [out_logged, ← List.append_assoc]
  · exact .inr ⟨_, _, hwrite, .unencodable e, out_logged _ _ _ _⟩

/-! ## Runs of the program -/

variable {v : Validator} {after : Console} {value : Value} {isValid : Bool}

/-- A command whose documents are read and validated writes the JSON text, and all that is left to
do then is to save the run, if it is to be saved. -/
lemma exists_runOn_runCommand {command : Command}
    (hputs : command.PutsOut place.1 c.tree v value isValid)
    (hloaded : runOn (loadValidator thresholdsPath) place c = (.ok v, after)) :
    ∃ (c₁ : Console) (rest : Session Unit), c₁.out = c.out ∧
      runOn (runCommand thresholdsPath command) place c =
        runOn (write (Json.pretty value ++ "\n") >>= fun _ => rest >>= fun _ =>
          pure (exitCode isValid)) place c₁ ∧
      (command.savedRun? place.1.now = none → rest = pure ()) ∧
      ∀ run, command.savedRun? place.1.now = some run → ∃ r file directory,
        run = Archive.runDirectory (Path.ofText directory) (Path.ofText file).stem place.1.now ∧
        rest = archiveReport r file directory := by
  have hout : after.out = c.out := by
    have h := (logsOnly_loadValidator thresholdsPath).out_eq place c
    rwa [hloaded] at h
  cases hputs with
  | @document file type text outputFile fs hfile hread hvalidate =>
    obtain ⟨c₁, hlog, hlogOut⟩ :=
      exists_runOn_logAll (v.trace place.1.depths.alone (.ofTexts type text)) place after
    refine ⟨c₁, pure (), hlogOut.trans hout, ?_, fun _ => rfl, nofun⟩
    unfold runCommand runValidate
    dsimp only
    rw [runOn_bind_of_ok runOn_tree, runOn_bind_of_ok (runOn_ofExcept_eq_ok.mpr ⟨hread, rfl⟩),
      runOn_bind_of_ok hloaded, runOn_bind_of_ok runOn_surroundings, runOn_bind_of_ok hlog,
      runOn_bind_of_ok (runOn_ofExcept_eq_ok.mpr ⟨hvalidate, rfl⟩), deliver_of_none hfile]
    rfl
  | @page file outputFile outputDirectory workers ss r hfile hload hpage =>
    obtain ⟨c₁, hlog, hlogOut⟩ :=
      exists_runOn_logAll (v.tracePage place.1.depths (some workers) ss) place after
    refine ⟨c₁, (nonempty outputDirectory).elim (pure ()) fun directory =>
      archiveReport r file directory, hlogOut.trans hout, ?_, ?_, ?_⟩
    · unfold runCommand runBatch
      dsimp only
      rw [runOn_bind_of_ok runOn_surroundings, runOn_bind_of_ok runOn_tree,
        runOn_bind_of_ok (runOn_ofExcept_eq_ok.mpr ⟨hload, rfl⟩), runOn_bind_of_ok hloaded,
        runOn_bind_of_ok hlog, runOn_bind_of_ok (runOn_ofExcept_eq_ok.mpr ⟨hpage, rfl⟩),
        deliver_of_none hfile]
      cases nonempty outputDirectory <;> rfl
    · intro hnone
      rw [Option.map_eq_none_iff.mp hnone]
      rfl
    · intro run hsome
      obtain ⟨directory, hdirectory, rfl⟩ := Option.map_eq_some_iff.mp hsome
      exact ⟨r, file, directory, rfl, by rw [hdirectory]; rfl⟩

/-- What a command puts out whose documents are read and validated. -/
lemma runOn_runCommand {command : Command}
    (hputs : command.PutsOut place.1 c.tree v value isValid)
    (hloaded : runOn (loadValidator thresholdsPath) place c = (.ok v, after)) :
    (¬ Json.IsEncodable value → ∃ e c',
      runOn (runCommand thresholdsPath command) place c = (.error (.unencodable e), c') ∧
        c'.out = c.out) ∧
    (Json.IsEncodable value →
      (command.savedRun? place.1.now = none →
        ∃ c', runOn (runCommand thresholdsPath command) place c = (.ok (exitCode isValid), c') ∧
          c'.out = c.out ++ (Json.pretty value ++ "\n")) ∧
      ∀ run, command.savedRun? place.1.now = some run →
        (∃ c', runOn (runCommand thresholdsPath command) place c = (.ok (exitCode isValid), c') ∧
          c'.out = c.out ++ (Json.pretty value ++ "\n") ++
            ("\nResults saved to " ++ run.text) ++ "\n") ∨
        ∃ f c', runOn (runCommand thresholdsPath command) place c = (.error f, c') ∧
          SavingFails f ∧ c'.out = c.out ++ (Json.pretty value ++ "\n")) := by
  obtain ⟨c₁, rest, hout, hrun, hnone, hsome⟩ := exists_runOn_runCommand hputs hloaded
  rw [hrun, ← hout]
  constructor
  · intro hvalue
    have hpoint : ∃ d ∈ Json.pretty value ++ "\n", d.isSurrogate = true := by
      simp only [Json.IsEncodable, not_forall, Bool.not_eq_false] at hvalue
      obtain ⟨d, hd, hsurrogate⟩ := hvalue
      exact ⟨d, List.mem_append_left _ hd, hsurrogate⟩
    obtain ⟨e, he⟩ := Utf8.exists_encode_eq_error_iff.mpr hpoint
    exact ⟨e, c₁, runOn_bind_eq_error.mpr (.inl (runOn_write_of_unencodable he)), rfl⟩
  · intro hvalue
    have hpoints : ∀ d ∈ Json.pretty value ++ "\n", d.isSurrogate = false :=
      List.forall_mem_append.mpr ⟨hvalue, by decide⟩
    rw [runOn_bind_of_ok (runOn_write_of_encodable hpoints)]
    constructor
    · intro hunsaved
      rw [hnone hunsaved]
      exact ⟨_, rfl, rfl⟩
    · intro run hsaved
      obtain ⟨r, file, directory, rfl, hrest⟩ := hsome run hsaved
      rw [hrest]
      rcases runOn_archiveReport place r file directory with
        ⟨c₂, hdone, hlast⟩ | ⟨f, c₂, hfailed, hf, hlast⟩
      · rw [runOn_bind_of_ok hdone]
        exact .inl ⟨c₂, rfl, hlast⟩
      · exact .inr ⟨f, c₂, runOn_bind_eq_error.mpr (.inl hfailed), hf, hlast⟩

/-- A run that can open its log does what its command does. -/
lemma run_of_openLog {s : Surroundings} {tree : FileTree} {line : List Text}
    {arguments : Arguments} {command : Command} (hline : Arguments.read line = .ok arguments)
    (hcommand : arguments.command = some command)
    (hopen : runOn openLog (s, logTarget s.settings arguments) ⟨tree, [], []⟩ = (.ok (), c)) :
    ((run s tree line).result, (run s tree line).console) =
      runOn (runReporting arguments.thresholds command) (s, logTarget s.settings arguments) c := by
  have hrun : ((run s tree line).result, (run s tree line).console) =
      runOn (runArguments arguments) (s, logTarget s.settings arguments) ⟨tree, [], []⟩ := by
    unfold run
    rw [hline]
    rfl
  rw [hrun, runArguments, runOn_bind_of_ok hopen, hcommand]

lemma runReporting_of_ok {command : Command} {code : ℕ}
    (h : runOn (runCommand thresholdsPath command) place c = (.ok code, c')) :
    runOn (runReporting thresholdsPath command) place c = (.ok code, c') := by
  unfold runReporting
  rw [runOn_tryCatch, h]

lemma runReporting_of_failure {command : Command} {f : Failure}
    (h : runOn (runCommand thresholdsPath command) place c = (.error f, c'))
    (hf : f.isRejection = false) :
    runOn (runReporting thresholdsPath command) place c = (.error f, c') := by
  unfold runReporting
  rw [runOn_tryCatch, h]
  dsimp only
  rw [hf, if_neg Bool.false_ne_true]
  rfl

/-- A note behind a written value is extra data. -/
lemma not_read_of_note {depth : ℕ} (hplain : value.Plain depth) (path : Text) :
    ¬ ∃ depth' w, Json.read depth'
      (Json.pretty value ++ "\n" ++ ("\nResults saved to " ++ path) ++ "\n") = .ok w := by
  have hnote : Json.Lexes ("\n\nResults saved to " ++ path ++ "\n") [.stray] := by
    refine Json.lexes_space (by decide) (Json.lexes_space (by decide) ?_)
    exact Json.lexes_of_step fun fuel p _ => rfl
  have hstops : Json.StopsNumber ("\n\nResults saved to " ++ path ++ "\n") := by
    rintro _ ⟨⟩
    decide
  have htext : Json.pretty value ++ "\n" ++ ("\nResults saved to " ++ path) ++ "\n" =
      Json.pretty value ++ ("\n\nResults saved to " ++ path ++ "\n") := by
    simp [Text.ofString]
  rintro ⟨depth', w, hw⟩
  -- a text that is read is read up to a greater depth, too, one that is enough for the value
  have hdeep := Json.read_eq_ok_of_le (Nat.le_max_left depth' depth) hw
  obtain ⟨rest, hrest, hread⟩ :=
    Json.read_pretty_append (hplain.mono (Nat.le_max_right depth' depth)) hstops hnote
  rw [htext, hread] at hdeep
  cases rest with
  | nil => cases hrest
  | cons t rest => cases hdeep

/-- A command over documents that puts out JSON, and to no file, writes one JSON text and a line
end to the standard output, with the value of its findings or its report, as long as the text can be
encoded and the command saves no run; otherwise it fails or spoils the output.  Where the text
cannot be encoded, it fails and writes nothing.  If it saves a run, it ends with a note behind the
text, so that the output is no JSON text any more, or it fails to save or to say where and leaves
the text alone. -/
theorem json_output_unless_saved {s : Surroundings} {tree : FileTree} {line : List Text}
    {arguments : Arguments} {command : Command} (hline : Arguments.read line = .ok arguments)
    (hcommand : arguments.command = some command)
    (hopen : runOn openLog (s, logTarget s.settings arguments) ⟨tree, [], []⟩ = (.ok (), c))
    (hloaded : runOn (loadValidator arguments.thresholds) (s, logTarget s.settings arguments) c =
      (.ok v, after))
    (hputs : command.PutsOut s c.tree v value isValid) :
    (¬ Json.IsEncodable value →
      (∃ e, (run s tree line).result = .error (.unencodable e)) ∧
        (run s tree line).console.out = []) ∧
    (Json.IsEncodable value →
      (command.savedRun? s.now = none →
        (run s tree line).result = .ok (exitCode isValid) ∧
        (run s tree line).console.out = Json.pretty value ++ "\n" ∧
        ∀ depth, 6 ≤ depth → Json.read depth (run s tree line).console.out = .ok value) ∧
      ∀ saved, command.savedRun? s.now = some saved →
        ((run s tree line).result = .ok (exitCode isValid) ∧
          (run s tree line).console.out =
            Json.pretty value ++ "\n" ++ ("\nResults saved to " ++ saved.text) ++ "\n" ∧
          ¬ ∃ depth w, Json.read depth (run s tree line).console.out = .ok w) ∨
        ((∃ f, (run s tree line).result = .error f ∧ SavingFails f) ∧
          (run s tree line).console.out = Json.pretty value ++ "\n" ∧
          ∀ depth, 6 ≤ depth → Json.read depth (run s tree line).console.out = .ok value)) := by
  have hout : c.out = [] := by
    have h := keepsOut_openLog (s, logTarget s.settings arguments) ⟨tree, [], []⟩
    rwa [hopen] at h
  have hplain := plain_of_putsOut hputs
  have hread : ∀ depth, 6 ≤ depth → Json.read depth (Json.pretty value ++ "\n") = .ok value :=
    fun depth hdepth => Json.read_pretty_blanks (hplain.mono hdepth) (by decide)
  have hrun := run_of_openLog hline hcommand hopen
  obtain ⟨hrefused, hwritten⟩ := runOn_runCommand hputs hloaded
  rw [hout, List.nil_append] at hwritten
  constructor
  · intro hvalue
    obtain ⟨e, c', hc', hlast⟩ := hrefused hvalue
    rw [runReporting_of_failure hc' rfl] at hrun
    obtain ⟨hresult, hconsole⟩ := Prod.mk.inj hrun
    exact ⟨⟨e, hresult⟩, by rw [hconsole, hlast, hout]⟩
  intro hvalue
  obtain ⟨hclean, hsaved⟩ := hwritten hvalue
  constructor
  · intro hnone
    obtain ⟨c', hc', hlast⟩ := hclean hnone
    rw [runReporting_of_ok hc'] at hrun
    obtain ⟨hresult, hconsole⟩ := Prod.mk.inj hrun
    rw [hconsole, hlast]
    exact ⟨hresult, rfl, hread⟩
  · intro saved hsome
    rcases hsaved saved hsome with ⟨c', hc', hlast⟩ | ⟨f, c', hc', hf, hlast⟩
    · rw [runReporting_of_ok hc'] at hrun
      obtain ⟨hresult, hconsole⟩ := Prod.mk.inj hrun
      rw [hconsole, hlast]
      exact .inl ⟨hresult, rfl, not_read_of_note hplain _⟩
    · rw [runReporting_of_failure hc' hf.isRejection] at hrun
      obtain ⟨hresult, hconsole⟩ := Prod.mk.inj hrun
      rw [hconsole, hlast]
      exact .inr ⟨⟨f, hresult, hf⟩, rfl, hread⟩

/-- A directory with a batch file of one document. -/
def onePageTree : FileTree :=
  ⟨[(["page.json"], .file (Utf8.octets
    ("[\x7b\"type\": \"WebPage\", \"schema\": \x7b\"@context\": \"https://schema.org\", " ++
      "\"@type\": \"WebPage\", \"@id\": \"#\"\x7d\x7d]")))]⟩

theorem onePage_output :
    ∃ (ss : List Submission) (r : PageReport),
      Batch.load bareSurroundings.batchDepth onePageTree "page.json" = .ok ss ∧
      (Validator.mk RequirementTable.packaged {}).validatePage bareSurroundings.depths (some 3) ss =
        .ok r ∧
      Json.IsEncodable r.toValue ∧
      Json.read 900 (run bareSurroundings onePageTree
        ["batch", "page.json", "-o", "json", "--workers", "3"]).console.out = .ok r.toValue := by
  have hline : Arguments.read ["batch", "page.json", "-o", "json", "--workers", "3"] =
      .ok ⟨none, none, none, some (.batch "page.json" .json none none 3)⟩ :=
    Outcome.eq_ok_of_toOption (by decide +kernel)
  have hall : (do
      let ss ← (Batch.load bareSurroundings.batchDepth onePageTree "page.json").toOption
      let r ← ((Validator.mk RequirementTable.packaged {}).validatePage bareSurroundings.depths
        (some 3) ss).toOption
      return (Json.pretty r.toValue).all fun c => !c.isSurrogate) = some true := by
    decide +kernel
  obtain ⟨ss, hss, hpage⟩ := Option.bind_eq_some_iff.mp hall
  obtain ⟨r, hr, hpoints⟩ := Option.bind_eq_some_iff.mp hpage
  have hss := Outcome.eq_ok_of_toOption hss
  have hr := Outcome.eq_ok_of_toOption hr
  have hencodable : Json.IsEncodable r.toValue := fun d hd => by
    simpa using List.all_eq_true.mp (Option.some.inj hpoints) d hd
  have hloaded : ∃ after, runOn (loadValidator none) (bareSurroundings, ⟨20, none⟩)
      ⟨onePageTree, [], []⟩ = (.ok ⟨RequirementTable.packaged, {}⟩, after) := ⟨_, rfl⟩
  obtain ⟨after, hloaded⟩ := hloaded
  obtain ⟨-, hwritten⟩ := json_output_unless_saved (c := ⟨onePageTree, [], []⟩) hline rfl rfl
    hloaded (.page rfl hss hr)
  obtain ⟨-, -, hread⟩ := (hwritten hencodable).1 rfl
  exact ⟨ss, r, hss, hr, hencodable, hread 900 (by decide)⟩

theorem onePage_saved :
    (run bareSurroundings onePageTree
      ["batch", "page.json", "-o", "json", "--output-dir", "out"]).result = .ok 0 ∧
    ¬ ∃ w, Json.read 900 (run bareSurroundings onePageTree
      ["batch", "page.json", "-o", "json", "--output-dir", "out"]).console.out = .ok w := by
  have hrun : (run bareSurroundings onePageTree
      ["batch", "page.json", "-o", "json", "--output-dir", "out"]).result.toOption = some 0 ∧
      (Json.read 900 (run bareSurroundings onePageTree
        ["batch", "page.json", "-o", "json", "--output-dir", "out"]).console.out).toOption.isNone =
        true := by
    decide +kernel
  refine ⟨Outcome.eq_ok_of_toOption hrun.1, ?_⟩
  rintro ⟨w, hw⟩
  rw [hw] at hrun
  cases hrun.2

/-- A directory with a batch file of one document, whose type is half of a surrogate pair and whose
text breaks off. -/
def halfPairTree : FileTree :=
  ⟨[(["page.json"], .file (Utf8.octets
    "[\x7b\"type\": \"\\ud800\", \"schema\": \"[\"\x7d]"))]⟩

example :
    let ended := run bareSurroundings halfPairTree ["batch", "page.json", "-o", "json"]
    ended.result.toOption = none ∧ ended.console.out = [] := by
  decide +kernel

end CommandLine

end StructuredData
