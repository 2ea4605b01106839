import StructuredData.Proofs.CommandLine.ExitCode
import StructuredData.Proofs.CommandLine.StandardOutput
import StructuredData.Proofs.Files.Growth

/-!
# Rejected commands have no effect

A command reads everything that can be rejected before it puts anything out: what may be rejected
only logs, and what has an effect is never rejected (`RejectsEarly`).  So a run that ends with the
code for rejections has written nothing to the standard output, and has changed nothing in the file
tree but its log file and the directories that were made for it.
-/

namespace StructuredData

namespace CommandLine

open Session FileTree

variable {place : Surroundings × LogTarget} {c c' : Console} {thresholdsPath : Option Text}

namespace Session

variable {α β ε : Type}

/-! ## Sessions that are never rejected -/

/-- No failure of the session is a rejection. -/
def NeverRejects (m : Session α) : Prop :=
  ∀ place c f, (runOn m place c).1 = .error f → f.isRejection = false

lemma neverRejects_of_ok {m : Session α} (h : ∀ place c, ∃ a, (runOn m place c).1 = .ok a) :
    NeverRejects m := by
  intro place c f hf
  obtain ⟨a, ha⟩ := h place c
  cases ha.symm.trans hf

lemma neverRejects_pure (a : α) : NeverRejects (pure a) := neverRejects_of_ok fun _ _ => ⟨a, rfl⟩

/-- A text that cannot be encoded is a failure, and no rejection. -/
lemma neverRejects_write (t : Text) : NeverRejects (write t) := by
  intro place c f hf
  rcases runOn_write t place c with hwrite | ⟨e, hwrite⟩
  · rw [hwrite] at hf
    cases hf
  · rw [hwrite] at hf
    cases hf
    rfl

lemma neverRejects_print (t : Text) : NeverRejects (print t) := neverRejects_write _

lemma neverRejects_tree : NeverRejects tree := neverRejects_of_ok fun _ c => ⟨c.tree, rfl⟩

lemma neverRejects_surroundings : NeverRejects surroundings :=
  neverRejects_of_ok fun place _ => ⟨place.1, rfl⟩

lemma neverRejects_log (r : LogRecord) : NeverRejects (log r) :=
  neverRejects_of_ok fun _ _ => ⟨(), rfl⟩

lemma neverRejects_logAll (rs : List LogRecord) : NeverRejects (logAll rs) :=
  neverRejects_of_ok fun _ _ => ⟨(), by rw [runOn_logAll]⟩

lemma neverRejects_ofExcept {wrap : ε → Failure} (h : ∀ e, (wrap e).isRejection = false)
    (r : Except ε α) : NeverRejects (ofExcept wrap r) := by
  intro place c f hf
  rw [runOn_ofExcept] at hf
  obtain ⟨e, -, rfl⟩ := Outcome.mapError_eq_error.mp hf
  exact h e

lemma neverRejects_filing {wrap : ε → Failure} {work : Filing ε α}
    (h : Filing.FailsOnlyWith (fun e => (wrap e).isRejection = false) work) :
    NeverRejects (filing wrap work) := by
  intro place c f hf
  rw [runOn_filing] at hf
  obtain ⟨e, he, rfl⟩ := Outcome.mapError_eq_error.mp hf
  exact h c.tree e he

lemma neverRejects_bind {m : Session α} {next : α → Session β} (hm : NeverRejects m)
    (hnext : ∀ a, NeverRejects (next a)) : NeverRejects (m >>= next) := by
  intro place c f hf
  obtain hfirst | ⟨a, after, -, hlast⟩ := runOn_bind_eq_error.mp (Prod.ext hf rfl)
  · exact hm place c f (congrArg Prod.fst hfirst)
  · exact hnext a place after f (congrArg Prod.fst hlast)

lemma neverRejects_forM_write (ts : List Text) : NeverRejects (ts.forM write) := by
  induction ts with
  | nil => exact neverRejects_pure ()
  | cons t ts ih => exact neverRejects_bind (neverRejects_write t) fun _ => ih

/-! ## Sessions that are rejected early -/

/-- When the session is rejected, it has only logged. -/
def RejectsEarly (m : Session α) : Prop :=
  ∀ place c f c', runOn m place c = (.error f, c') → f.isRejection = true →
    ∃ rs, c' = loggedAll place rs c

lemma NeverRejects.rejectsEarly {m : Session α} (h : NeverRejects m) : RejectsEarly m := by
  intro place c f c' hf hrejection
  rw [h place c f (congrArg Prod.fst hf)] at hrejection
  cases hrejection

/-- A session that only logs may stand before one that is rejected early. -/
lemma rejectsEarly_bind {m : Session α} {next : α → Session β} (hm : LogsOnly m)
    (hnext : ∀ a, RejectsEarly (next a)) : RejectsEarly (m >>= next) := by
  intro place c f c' hf hrejection
  obtain ⟨rs, hrs⟩ := hm place c
  obtain hfirst | ⟨a, after, hfirst, hlast⟩ := runOn_bind_eq_error.mp hf
  · rw [hfirst] at hrs
    exact ⟨rs, hrs⟩
  · rw [hfirst] at hrs
    obtain ⟨rs', hrs'⟩ := hnext a place after f c' hlast hrejection
    rw [hrs', show after = loggedAll place rs c from hrs, ← loggedAll_append]
    exact ⟨rs ++ rs', rfl⟩

end Session

/-! ## Commands -/

lemma neverRejects_deliver (result : Text) (outputFile : Option Text) :
    NeverRejects (deliver result outputFile) := by
  unfold deliver
  cases nonempty outputFile with
  | none => exact neverRejects_print result
  | some path =>
    refine neverRejects_bind (neverRejects_filing ?_) fun _ => neverRejects_print _
    exact Filing.failsOnlyWith_bind (Filing.failsOnlyWith_makeDirectories fun _ => rfl) fun _ =>
      Filing.failsOnlyWith_writeTexts (fun _ => rfl) fun _ => rfl

lemma neverRejects_renderReport (r : PageReport) (format : ReportFormat) (file : Text) :
    NeverRejects (renderReport r format file) :=
  neverRejects_bind neverRejects_surroundings fun _ =>
    neverRejects_bind neverRejects_tree fun _ =>
      neverRejects_bind (neverRejects_ofExcept (fun _ => rfl) _) fun _ =>
        neverRejects_bind (neverRejects_logAll _) fun _ => neverRejects_pure _

lemma neverRejects_archiveReport (r : PageReport) (file directory : Text) :
    NeverRejects (archiveReport r file directory) :=
  neverRejects_bind neverRejects_surroundings fun _ =>
    neverRejects_bind (neverRejects_filing fun _ _ _ => rfl) fun _ =>
      neverRejects_bind (neverRejects_filing fun _ _ _ => rfl) fun _ =>
        neverRejects_bind (neverRejects_filing fun _ _ _ => rfl) fun _ =>
          neverRejects_bind (neverRejects_log _) fun _ => neverRejects_print _

lemma rejectsEarly_runValidate (file type : Text) (output : DocumentOutput)
    (outputFile : Option Text) :
    RejectsEarly (runValidate thresholdsPath file type output outputFile) := by
  refine rejectsEarly_bind logsOnly_tree fun tree => ?_
  refine rejectsEarly_bind (logsOnly_ofExcept _ _) fun text => ?_
  refine rejectsEarly_bind (logsOnly_loadValidator thresholdsPath) fun v => ?_
  refine rejectsEarly_bind logsOnly_surroundings fun s => ?_
  refine rejectsEarly_bind (logsOnly_logAll _) fun _ => ?_
  refine rejectsEarly_bind (logsOnly_ofExcept _ _) fun fs => NeverRejects.rejectsEarly ?_
  cases output with
  | json => exact neverRejects_bind (neverRejects_deliver _ _) fun _ => neverRejects_pure _
  | text => exact neverRejects_bind (neverRejects_forM_write _) fun _ => neverRejects_pure _

lemma rejectsEarly_runBatch (file : Text) (output : PageOutput)
    (outputFile outputDirectory : Option Text) (workers : ℤ) :
    RejectsEarly (runBatch thresholdsPath file output outputFile outputDirectory workers) := by
  refine rejectsEarly_bind logsOnly_surroundings fun s => ?_
  refine rejectsEarly_bind logsOnly_tree fun tree => ?_
  refine rejectsEarly_bind (logsOnly_ofExcept _ _) fun ss => ?_
  refine rejectsEarly_bind (logsOnly_loadValidator thresholdsPath) fun v => ?_
  refine rejectsEarly_bind (logsOnly_logAll _) fun _ => ?_
  refine rejectsEarly_bind (logsOnly_ofExcept _ _) fun r => NeverRejects.rejectsEarly ?_
  cases output
  case' json => refine neverRejects_bind (neverRejects_deliver _ _) fun _ => ?_
  case' html | markdown =>
    refine neverRejects_bind (neverRejects_renderReport _ _ _) fun _ =>
      neverRejects_bind (neverRejects_deliver _ _) fun _ => ?_
  case' text => refine neverRejects_bind (neverRejects_forM_write _) fun _ => ?_
  -- however the report is put out, all that may be left to do is to save it
  all_goals
    cases nonempty outputDirectory with
    | none => exact neverRejects_bind (neverRejects_pure ()) fun _ => neverRejects_pure _
    | some directory =>
      exact neverRejects_bind (neverRejects_archiveReport r file directory) fun _ =>
        neverRejects_pure _

lemma rejectsEarly_runThresholds (save : Option Text) :
    RejectsEarly (runThresholds thresholdsPath save) := by
  refine rejectsEarly_bind (logsOnly_loadThresholds thresholdsPath) fun t =>
    NeverRejects.rejectsEarly ?_
  cases nonempty save with
  | none => exact neverRejects_bind (neverRejects_print _) fun _ => neverRejects_pure _
  | some path =>
    exact neverRejects_bind (neverRejects_filing fun _ _ _ => rfl) fun _ =>
      neverRejects_bind (neverRejects_print _) fun _ => neverRejects_pure _

theorem rejectsEarly_runCommand (command : Command) :
    RejectsEarly (runCommand thresholdsPath command) := by
  cases command with
  | validate file type output outputFile =>
    exact rejectsEarly_runValidate file type output outputFile
  | batch file output outputFile outputDirectory workers =>
    exact rejectsEarly_runBatch file output outputFile outputDirectory workers
  | thresholds save => exact rejectsEarly_runThresholds save

/-- No command ends with the code for rejections by itself. -/
lemma runCommand_ne_usageCode {command : Command} {code : ℕ}
    (h : runOn (runCommand thresholdsPath command) place c = (.ok code, c')) :
    code ≠ usageCode := by
  by_cases hcommand : ∀ save, command ≠ .thresholds save
  · obtain ⟨-, -, -, -, isValid, -, -, rfl, -⟩ := runCommand_eq_ok hcommand h
    cases isValid <;> decide
  · push Not at hcommand
    obtain ⟨save, rfl⟩ := hcommand
    rw [runThresholds_eq_ok h]
    decide

/-- A command that is reported as rejected has only logged, and what is reported is no more than a
further record and a line on the standard error. -/
lemma loggedAll_of_runReporting {command : Command}
    (h : runOn (runReporting thresholdsPath command) place c = (.ok usageCode, c')) :
    ∃ rs, c'.out = (loggedAll place rs c).out ∧ c'.tree = (loggedAll place rs c).tree := by
  unfold runReporting at h
  rw [runOn_tryCatch] at h
  rcases hrun : runOn (runCommand thresholdsPath command) place c with ⟨f | code, after⟩
  · rw [hrun] at h
    dsimp only at h
    split_ifs at h with hrejection
    · obtain ⟨rs, rfl⟩ := rejectsEarly_runCommand command place c f after hrun hrejection
      cases h
      refine ⟨rs ++ [⟨"cli", .debug, "Command failed"⟩], ?_, ?_⟩
      · rw [loggedAll_append]
        rfl
      · rw [loggedAll_append]
        rfl
    · cases h
  · rw [hrun] at h
    cases h
    exact absurd rfl (runCommand_ne_usageCode hrun)

/-! ## The log file -/

/-- The path of the log file, if one is named, can be told from its written form. -/
def LogTarget.Readable (target : LogTarget) : Prop := ∀ p, target.file = some p → p.Readable

variable {tree : FileTree}

lemma changesOnly_logged {target : LogTarget} (htarget : target.Readable)
    (h : ChangesOnly tree target.file c.tree) (time : Text) (r : LogRecord) :
    ChangesOnly tree target.file (logged target time r c).tree := by
  obtain ⟨rank, file⟩ := target
  unfold logged
  split_ifs
  · exact h
  · cases file with
    | none => exact h
    | some p =>
      dsimp only
      unfold appendLine
      cases Utf8.encode (r.line time) with
      | error e => exact h
      | ok octets =>
        dsimp only
        cases happend : c.tree.append p octets with
        | error fault => exact h
        | ok after => exact h.append (htarget p rfl) happend

lemma changesOnly_loggedAll (place : Surroundings × LogTarget) (htarget : place.2.Readable)
    (h : ChangesOnly tree place.2.file c.tree) (rs : List LogRecord) :
    ChangesOnly tree place.2.file (loggedAll place rs c).tree := by
  induction rs generalizing c with
  | nil => exact h
  | cons r rest ih => exact ih (changesOnly_logged htarget h _ r)

lemma changesOnly_openLog (htarget : place.2.Readable)
    (h : runOn openLog place c = (.ok (), c')) : ChangesOnly c.tree place.2.file c'.tree := by
  cases hfile : place.2.file with
  | none =>
    rw [runOn_openLog_none hfile] at h
    cases h
    exact .refl c.tree none
  | some p =>
    rw [runOn_openLog_some hfile] at h
    obtain ⟨_, c₁, hmake, happend⟩ := runOn_bind_eq_ok.mp h
    rw [runOn_filing] at hmake happend
    obtain ⟨-, rfl⟩ := Prod.mk.inj hmake
    obtain ⟨-, rfl⟩ := Prod.mk.inj happend
    have hway := changesOnly_of_makesWay (makesWay_grow c.tree p.parent)
    rw [Filing.on_makeDirectories, Filing.on_step]
    split
    · next hwritten => exact hway.append (htarget p hfile) hwritten
    · exact hway

/-! ## Runs of the program -/

lemma readable_logTarget (s : Settings) (arguments : Arguments) :
    (logTarget s arguments).Readable := by
  intro p hfile
  obtain ⟨name, -, rfl⟩ := Option.map_eq_some_iff.mp hfile
  exact Path.readable_ofText name

/-- A command that is rejected, whatever it is and for whatever reason, has no effect: nothing is
written to the standard output, and in the file tree nothing is made, changed or removed but the log
file, if one is named, and directories on the way to it. -/
theorem rejected_without_effect {s : Surroundings} {line : List Text} {arguments : Arguments}
    {command : Command} (hline : Arguments.read line = .ok arguments)
    (hcommand : arguments.command = some command)
    (hresult : (run s tree line).result = .ok usageCode) :
    (run s tree line).console.out = [] ∧
      ChangesOnly tree (logTarget s.settings arguments).file (run s tree line).console.tree := by
  obtain ⟨c, c', hopen, hreporting⟩ := run_result_eq_ok hline hcommand hresult
  have hrun := run_of_openLog hline hcommand hopen
  rw [hreporting] at hrun
  obtain ⟨-, hconsole⟩ := Prod.mk.inj hrun
  obtain ⟨rs, hout, htree⟩ := loggedAll_of_runReporting hreporting
  have htarget := readable_logTarget s.settings arguments
  rw [hconsole, hout, htree, out_loggedAll]
  constructor
  · have hempty := keepsOut_openLog (s, logTarget s.settings arguments) ⟨tree, [], []⟩
    rwa [hopen] at hempty
  · exact changesOnly_loggedAll (s, logTarget s.settings arguments) htarget
      (changesOnly_openLog htarget hopen) rs

/-- A directory with a batch file that breaks off. -/
def brokenPage : FileTree := ⟨[(["page.json"], .file (Utf8.octets ("[" : Text)))]⟩

theorem brokenPage_without_effect :
    let ended := run bareSurroundings brokenPage
      ["--log-file", "logs/run.log", "batch", "page.json", "--output-dir", "out"]
    ended.result = .ok usageCode ∧ ended.console.out = [] ∧
      ChangesOnly brokenPage (some (Path.ofText "logs/run.log")) ended.console.tree ∧
      ended.console.tree.node? ["logs"] = some .directory ∧
      ended.console.tree.node? ["out"] = none := by
  have hline : Arguments.read
      ["--log-file", "logs/run.log", "batch", "page.json", "--output-dir", "out"] =
      .ok ⟨none, some "logs/run.log", none,
        some (.batch "page.json" .text none (some "out") 1)⟩ :=
    Outcome.eq_ok_of_toOption (by decide +kernel)
  have hresult : (run bareSurroundings brokenPage
      ["--log-file", "logs/run.log", "batch", "page.json", "--output-dir", "out"]).result =
      .ok usageCode :=
    Outcome.eq_ok_of_toOption (by decide +kernel)
  obtain ⟨hout, hchanges⟩ := rejected_without_effect hline rfl hresult
  exact ⟨hresult, hout, hchanges, by decide +kernel, by decide +kernel⟩

end CommandLine

end StructuredData
