import StructuredData.Proofs.CommandLine.Session
import StructuredData.Proofs.Json.Depth
import StructuredData.Proofs.Page.Aggregation

/-!
# The verdict on a page

A run that validates a batch file, and that is not rejected, ends with the code for a page without
errors or with that for a page with some.  Which of the two it is depends on the page's report
alone: neither the form in which the report is written nor the remarks on the page as a whole make a
difference.

In the report stands what is found in each document where it is validated.  That is what is found in
the document alone, unless its text nests too deep for the one place and not for the other
(`twoPersons_differ`).
-/

namespace StructuredData

namespace CommandLine

open Session

variable {place : Surroundings × LogTarget} {c c' : Console} {thresholdsPath : Option Text}
  {file : Text} {output : PageOutput} {outputFile outputDirectory : Option Text} {workers : ℤ}
  {code : ℕ}

/-- What a run over a batch file has done when it ends with a code. -/
lemma runBatch_eq_ok
    (h : runOn (runBatch thresholdsPath file output outputFile outputDirectory workers) place c =
      (.ok code, c')) :
    ∃ ss v after r, Batch.load place.1.batchDepth c.tree file = .ok ss ∧
      runOn (loadValidator thresholdsPath) place c = (.ok v, after) ∧
      v.validatePage place.1.depths (some workers) ss = .ok r ∧
      code = exitCode (r.documents.all fun d => d.findings.isValid) := by
  obtain ⟨s, c₀, hs, htree⟩ := runOn_bind_eq_ok.mp h
  cases hs
  obtain ⟨t, c₁, ht, hloading⟩ := runOn_bind_eq_ok.mp htree
  cases ht
  obtain ⟨ss, c₂, hss, hvalidator⟩ := runOn_bind_eq_ok.mp hloading
  obtain ⟨hload, rfl⟩ := runOn_ofExcept_eq_ok.mp hss
  obtain ⟨v, after, hv, hlogging⟩ := runOn_bind_eq_ok.mp hvalidator
  obtain ⟨_, c₄, -, hreport⟩ := runOn_bind_eq_ok.mp hlogging
  obtain ⟨r, c₅, hr, hdelivery⟩ := runOn_bind_eq_ok.mp hreport
  obtain ⟨hpage, -⟩ := runOn_ofExcept_eq_ok.mp hr
  refine ⟨ss, v, after, r, hload, hv, hpage, ?_⟩
  -- what remains delivers the report, and ends with the code however it is delivered
  refine (?_ : OnlyResult _ _) _ _ _ _ hdelivery
  cases nonempty outputDirectory with
  | none =>
    cases output with
    | json | text => exact onlyResult_bind fun _ => onlyResult_pure _
    | html | markdown => exact onlyResult_bind fun _ => onlyResult_bind fun _ => onlyResult_pure _
  | some directory =>
    have hsave : OnlyResult (archiveReport r file directory >>= fun _ =>
        pure (exitCode (r.documents.all fun d => d.findings.isValid)))
        (exitCode (r.documents.all fun d => d.findings.isValid)) :=
      onlyResult_bind fun _ => onlyResult_pure _
    cases output with
    | json | text => exact onlyResult_bind fun _ => hsave
    | html | markdown => exact onlyResult_bind fun _ => onlyResult_bind fun _ => hsave

/-- A code other than that of a rejection is the command's own. -/
lemma runReporting_eq_ok {command : Command}
    (h : runOn (runReporting thresholdsPath command) place c = (.ok code, c'))
    (hcode : code ≠ usageCode) :
    runOn (runCommand thresholdsPath command) place c = (.ok code, c') := by
  unfold runReporting at h
  rw [runOn_tryCatch] at h
  generalize runOn (runCommand thresholdsPath command) place c = ended at h ⊢
  obtain ⟨result, after⟩ := ended
  cases result with
  | ok n => exact h
  | error f =>
    dsimp only at h
    split_ifs at h
    · have hrejected : OnlyResult
          (log ⟨"cli", .debug, "Command failed"⟩ >>= fun _ =>
            reportError f >>= fun _ => (pure usageCode : Session ℕ)) usageCode :=
        onlyResult_bind fun _ => onlyResult_bind fun _ => onlyResult_pure _
      exact absurd (hrejected _ _ _ _ h) hcode
    · cases h

/-- The console on which a command starts: the log file has been opened. -/
lemma run_result_eq_ok {s : Surroundings} {tree : FileTree} {line : List Text}
    {arguments : Arguments} {command : Command} (hline : Arguments.read line = .ok arguments)
    (hcommand : arguments.command = some command)
    (h : (run s tree line).result = .ok code) :
    ∃ c c', runOn openLog (s, logTarget s.settings arguments) ⟨tree, [], []⟩ = (.ok (), c) ∧
      runOn (runReporting arguments.thresholds command) (s, logTarget s.settings arguments) c =
        (.ok code, c') := by
  have hrun : (run s tree line).result =
      (runOn (runArguments arguments) (s, logTarget s.settings arguments) ⟨tree, [], []⟩).1 := by
    unfold run
    rw [hline]
    rfl
  have hsession : runOn (runArguments arguments) (s, logTarget s.settings arguments)
      ⟨tree, [], []⟩ = (.ok code, (runOn (runArguments arguments)
        (s, logTarget s.settings arguments) ⟨tree, [], []⟩).2) := by
    rw [← h, hrun]
  obtain ⟨_, c, hopen, hrest⟩ := runOn_bind_eq_ok.mp hsession
  rw [hcommand] at hrest
  exact ⟨c, _, hopen, hrest⟩

/-- A page report holds each document in its place with what is found in it where it is validated,
and that is what is found in it alone if its text nests deep enough for both places or for neither;
it holds all findings in their order, and is valid if and only if every document is.  A run over a
batch file that is not rejected has loaded the file and a validator, and it ends with the code that
the validity of their report asks for. -/
theorem report_aggregates_and_decides (v : Validator) (s : Surroundings) (tree : FileTree) :
    (∀ (depths : Depths) (workers : Option ℤ) (ss : List Submission) (r : PageReport),
      v.validatePage depths workers ss = .ok r →
      r.Aggregates v (Validator.depthAtWork depths workers ss) depths.page ss ∧
        List.Forall₂ (fun s d =>
          (s.nesting ≤ depths.alone ↔ s.nesting ≤ Validator.depthAtWork depths workers ss) →
            v.validate depths.alone s = .ok d.findings) ss r.documents ∧
        (r.isValid = true ↔ ∀ d ∈ r.documents, d.findings.isValid = true)) ∧
    ∀ (line : List Text) (arguments : Arguments) (file : Text) (output : PageOutput)
      (outputFile outputDirectory : Option Text) (workers : ℤ) (code : ℕ),
      Arguments.read line = .ok arguments →
      arguments.command = some (.batch file output outputFile outputDirectory workers) →
      (run s tree line).result = .ok code → code ≠ usageCode →
      ∃ c ss loaded after r,
        runOn openLog (s, logTarget s.settings arguments) ⟨tree, [], []⟩ = (.ok (), c) ∧
        Batch.load s.batchDepth c.tree file = .ok ss ∧
        runOn (loadValidator arguments.thresholds) (s, logTarget s.settings arguments) c =
          (.ok loaded, after) ∧
        loaded.validatePage s.depths (some workers) ss = .ok r ∧
        code = if r.isValid = true then 0 else 1 := by
  constructor
  · intro depths workers ss r h
    have haggregates := Validator.aggregates_of_validatePage h
    refine ⟨haggregates, haggregates.documents.imp fun s d hd hnesting => ?_,
      haggregates.isValid_iff_documents⟩
    rw [Validator.validate_congr (Submission.parsed?_congr hnesting)]
    exact hd.2
  · intro line arguments file output outputFile outputDirectory workers code hline hcommand hresult
      hcode
    obtain ⟨c, c', hopen, hreporting⟩ := run_result_eq_ok hline hcommand hresult
    obtain ⟨ss, v, after, r, hload, hv, hpage, rfl⟩ :=
      runBatch_eq_ok (runReporting_eq_ok hreporting hcode)
    refine ⟨c, ss, v, after, r, hopen, hload, hv, hpage, ?_⟩
    -- the command asks its documents in turn, the report its list of errors
    have hvalid : (r.documents.all fun d => d.findings.isValid) = r.isValid := by
      rw [Bool.eq_iff_iff, List.all_eq_true]
      exact (Validator.aggregates_of_validatePage hpage).isValid_iff_documents.symm
    rw [hvalid]
    rfl

/-- A directory with a batch file of two documents, the first of which has warnings only and the
second no readable text. -/
def halfReadable : FileTree :=
  ⟨[(["page.json"], .file (Utf8.octets
    ("[\x7b\"type\": \"WebPage\", " ++
      "\"schema\": \x7b\"@context\": \"-\", \"@type\": \"WebPage\"\x7d\x7d, " ++
      "\x7b\"type\": \"Article\", \"schema\": \"[\"\x7d]")))]⟩

theorem halfReadable_report :
    ∃ (c : Console) (ss : List Submission) (v : Validator) (r : PageReport),
      Batch.load bareSurroundings.batchDepth c.tree "page.json" = .ok ss ∧
      v.validatePage bareSurroundings.depths (some 2) ss = .ok r ∧
      r.Aggregates v (Validator.depthAtWork bareSurroundings.depths (some 2) ss)
        bareSurroundings.depths.page ss ∧ r.isValid = false := by
  let line : List Text := ["batch", "page.json", "--workers", "2"]
  have hline : Arguments.read line =
      .ok ⟨none, none, none, some (.batch "page.json" .text none none 2)⟩ :=
    Outcome.eq_ok_of_toOption (by decide +kernel)
  have hresult : (run bareSurroundings halfReadable line).result = .ok 1 :=
    Outcome.eq_ok_of_toOption (by decide +kernel)
  obtain ⟨-, hruns⟩ := report_aggregates_and_decides ⟨RequirementTable.packaged, {}⟩
    bareSurroundings halfReadable
  obtain ⟨c, ss, v, _, r, -, hload, -, hpage, hcode⟩ :=
    hruns line _ _ _ _ _ _ _ hline rfl hresult (by decide)
  obtain ⟨hreports, -⟩ := report_aggregates_and_decides v bareSurroundings halfReadable
  obtain ⟨haggregates, -, -⟩ := hreports _ _ ss r hpage
  refine ⟨c, ss, v, r, hload, hpage, haggregates, ?_⟩
  by_contra hvalid
  rw [Bool.not_eq_false] at hvalid
  simp [hvalid] at hcode

/-- A page with two persons, the first of whom is nine hundred lists. -/
def twoPersons : List Submission :=
  [.ofTexts "Person" (Text.nestedLists 900), .ofTexts "Person" "\x7b\x7d"]

/-- A hundred calls down, what two workers find in the first person is not what is found in it
alone. -/
theorem twoPersons_differ :
    ∃ r d, (Validator.mk RequirementTable.packaged {}).validatePage .hundredDown (some 2)
        twoPersons = .ok r ∧ r.documents.head? = some d ∧ twoPersons.head? = some d.submission ∧
      (Validator.mk RequirementTable.packaged {}).validate Depths.hundredDown.alone d.submission ≠
        .ok d.findings := by
  let v : Validator := ⟨RequirementTable.packaged, {}⟩
  have hpage : (v.validatePage .hundredDown (some 2) twoPersons).toOption.isSome = true := by
    decide +kernel
  have halone : (v.validate Depths.hundredDown.alone
      (.ofTexts "Person" (Text.nestedLists 900))).toOption.map (·.errors.length) = some 1 := by
    decide +kernel
  have hpooled : (v.validate (Validator.depthAtWork .hundredDown (some 2) twoPersons)
      (.ofTexts "Person" (Text.nestedLists 900))).toOption.map (·.errors.length) ≠ some 1 := by
    decide +kernel
  obtain ⟨r, hr⟩ := Outcome.exists_eq_ok_of_isSome hpage
  have hdocuments := (Validator.aggregates_of_validatePage hr).documents
  generalize hrow : r.documents = documents at hdocuments
  obtain ⟨d, rest, ⟨hsubmission, hfindings⟩, -, rfl⟩ := List.forall₂_cons_left_iff.mp hdocuments
  refine ⟨r, d, hr, by rw [hrow]; rfl, by rw [hsubmission]; rfl, ?_⟩
  intro hsame
  rw [hsubmission] at hsame
  rw [hsame] at halone
  rw [hfindings] at hpooled
  exact hpooled halone

end CommandLine

end StructuredData
