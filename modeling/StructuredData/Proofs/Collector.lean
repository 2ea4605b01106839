import Mathlib.Algebra.Order.Ring.Int
import Mathlib.Data.List.Induction
import Mathlib.Tactic.Common
import StructuredData.Collector
import StructuredData.Proofs.Outcome
import StructuredData.Proofs.Validator.Remarks
import StructuredData.Verdict

/-!
# Collectors at work

A collector only ever gains: a step puts findings behind those that are there or adds a result, and
no result changes once it is frozen.  So each list of findings is what the single steps have brought
to it, in their order, the results at the end telling what was taken in on the way
(`ofSeverity_after`).  This stays so when a collector takes in its own results again and again, and
with every step the score can only fall.

`RefersBack` singles out the rows of steps that take in earlier results only.  These are the ones
that can be run (`isSome_run_iff`), and what comes of them is summed up in `Accounts`.
-/

namespace StructuredData

/-! ## Scores and verdicts -/

namespace Findings

variable {fs fs' : Findings}

lemma score_eq (fs : Findings) :
    fs.score =
      max 0 (100 - 20 * fs.errors.length - 5 * fs.warnings.length - fs.info.length : ℤ) := by
  unfold score scoreOf
  omega

/-- Further findings do not raise the score. -/
lemma score_le_of_prefix (h : ∀ s, fs.ofSeverity s <+: fs'.ofSeverity s) :
    fs'.score ≤ fs.score := by
  have herrors : fs.errors.length ≤ fs'.errors.length := (h .error).length_le
  have hwarnings : fs.warnings.length ≤ fs'.warnings.length := (h .warning).length_le
  have hinfo : fs.info.length ≤ fs'.info.length := (h .info).length_le
  rw [score_eq, score_eq]
  omega

lemma isValid_eq_false (h : fs.errors ≠ []) : fs.isValid = false := by
  simpa [isValid] using h

lemma status_eq_invalid (h : fs.errors ≠ []) : fs.status = .invalid := by
  rw [status, isValid_eq_false h]
  rfl

/-- A single error takes so many points that the rest is no longer good. -/
lemma band_ne_good (h : fs.errors ≠ []) : fs.band ≠ .good := by
  have herror : 0 < fs.errors.length := List.length_pos_iff.mpr h
  have hscore : ¬ 90 ≤ fs.score := by
    rw [score_eq]
    omega
  unfold band Band.ofScore
  rw [if_neg hscore]
  split_ifs <;> decide

end Findings

namespace Collector

variable {c c' : Collector} {a : Step} {steps before later : List Step} {s : Severity}
  {f : Finding}

/-! ## One step -/

/-- What a step can do. -/
lemma step_cases (h : c.step a = some c') :
    (∃ severity message path suggestion, a = .record severity message path suggestion ∧
      c' = { c with findings := c.findings.record ⟨severity, message, path, suggestion⟩ }) ∨
    (a = .freeze ∧ c' = { c with results := c.results ++ [c.findings] }) ∨
    ∃ n fs, a = .extend n ∧ c.results[n]? = some fs ∧
      c' = { c with findings := c.findings ++ fs } := by
  cases a with
  | record severity message path suggestion =>
    exact .inl ⟨severity, message, path, suggestion, rfl, (Option.some.inj h).symm⟩
  | freeze => exact .inr (.inl ⟨rfl, (Option.some.inj h).symm⟩)
  | extend n =>
    obtain ⟨fs, hfs, hc⟩ := Option.map_eq_some_iff.mp h
    exact .inr (.inr ⟨n, fs, rfl, hfs, hc.symm⟩)

/-- What a step brings to the list of a severity, when these are the results. -/
def Step.brings (results : List Findings) (s : Severity) : Step → List Finding
  | .record severity message path suggestion =>
    if severity = s then [⟨severity, message, path, suggestion⟩] else []
  | .freeze => []
  | .extend n => (results[n]?.map (·.ofSeverity s)).getD []

lemma ofSeverity_step (h : c.step a = some c') :
    c'.findings.ofSeverity s = c.findings.ofSeverity s ++ a.brings c.results s := by
  obtain ⟨severity, message, path, suggestion, rfl, rfl⟩ | ⟨rfl, rfl⟩ | ⟨n, fs, rfl, hfs, rfl⟩ :=
    step_cases h
  · exact Findings.ofSeverity_record _ _ s
  · exact (List.append_nil _).symm
  · rw [Findings.ofSeverity_append, Step.brings, hfs]
    rfl

lemma results_step (h : c.step a = some c') :
    c'.results = c.results ++ if a = .freeze then [c.findings] else [] := by
  obtain ⟨severity, message, path, suggestion, rfl, rfl⟩ | ⟨rfl, rfl⟩ | ⟨n, fs, rfl, hfs, rfl⟩ :=
    step_cases h <;> simp

lemma getElem?_of_prefix {results results' : List Findings} {n : ℕ} {fs : Findings}
    (h : results <+: results') (hn : results[n]? = some fs) : results'[n]? = some fs := by
  obtain ⟨more, rfl⟩ := h
  rwa [List.getElem?_append_left (List.getElem?_eq_some_iff.mp hn).1]

/-- What a step brings does not change when further results are frozen. -/
lemma brings_of_prefix (h : c.step a = some c') {results : List Findings}
    (hresults : c.results <+: results) : a.brings results s = a.brings c.results s := by
  obtain ⟨severity, message, path, suggestion, rfl, -⟩ | ⟨rfl, -⟩ | ⟨n, fs, rfl, hfs, -⟩ :=
    step_cases h
  · rfl
  · rfl
  · rw [Step.brings, Step.brings, hfs, getElem?_of_prefix hresults hfs]

/-! ## Steps in a row -/

lemma after_cons_eq_some :
    c.after (a :: steps) = some c' ↔ ∃ b, c.step a = some b ∧ b.after steps = some c' :=
  Option.bind_eq_some_iff

lemma after_append_eq_some :
    c.after (steps ++ later) = some c' ↔ ∃ b, c.after steps = some b ∧ b.after later = some c' := by
  unfold after
  rw [List.foldlM_append]
  exact Option.bind_eq_some_iff

/-- Results stay what and where they are. -/
lemma prefix_results (h : c.after steps = some c') : c.results <+: c'.results := by
  induction steps generalizing c with
  | nil =>
    cases h
    exact List.prefix_rfl
  | cons a steps ih =>
    obtain ⟨b, hb, hsteps⟩ := after_cons_eq_some.mp h
    have hresults : c.results <+: b.results := results_step hb ▸ List.prefix_append _ _
    exact hresults.trans (ih hsteps)

lemma length_results (h : c.after steps = some c') :
    c'.results.length = c.results.length + steps.count .freeze := by
  induction steps generalizing c with
  | nil =>
    cases h
    rfl
  | cons a steps ih =>
    obtain ⟨b, hb, hsteps⟩ := after_cons_eq_some.mp h
    have hlength : b.results.length = c.results.length + if a == .freeze then 1 else 0 := by
      rw [results_step hb]
      by_cases ha : a = .freeze <;> simp [ha]
    rw [ih hsteps, hlength, List.count_cons, Nat.add_assoc, Nat.add_comm (ite _ _ _)]

/-- The list of a severity gains what each of the steps brings to it, in their order. -/
lemma ofSeverity_after (h : c.after steps = some c') :
    c'.findings.ofSeverity s =
      c.findings.ofSeverity s ++ steps.flatMap (Step.brings c'.results s) := by
  induction steps generalizing c with
  | nil =>
    cases h
    exact (List.append_nil _).symm
  | cons a steps ih =>
    obtain ⟨b, hb, hsteps⟩ := after_cons_eq_some.mp h
    have hresults : c.results <+: c'.results := prefix_results h
    rw [ih hsteps, ofSeverity_step hb, List.flatMap_cons, brings_of_prefix hb hresults,
      List.append_assoc]

lemma score_after_le (h : c.after steps = some c') : c'.findings.score ≤ c.findings.score :=
  Findings.score_le_of_prefix fun _ => ofSeverity_after h ▸ List.prefix_append _ _

/-! ## Where findings come from -/

/-- The finding stands in the list of a severity, in the collector or in one of its results. -/
def Holds (c : Collector) (s : Severity) (f : Finding) : Prop :=
  ∃ fs ∈ c.findings :: c.results, f ∈ fs.ofSeverity s

/-- The step records the finding, and does so in the list of its severity. -/
def Step.Records (a : Step) (s : Severity) (f : Finding) : Prop :=
  f.severity = s ∧ a = .record s f.message f.path f.suggestion

/-- Only recording makes findings; freezing and taking in pass them around. -/
lemma holds_step (h : c.step a = some c') (hf : c'.Holds s f) : c.Holds s f ∨ a.Records s f := by
  obtain ⟨fs, hfs, hmem⟩ := hf
  obtain ⟨severity, message, path, suggestion, rfl, rfl⟩ | ⟨rfl, rfl⟩ | ⟨n, taken, rfl, hn, rfl⟩ :=
    step_cases h
  · rcases List.mem_cons.mp hfs with rfl | hfs
    · rw [Findings.ofSeverity_record, List.mem_append] at hmem
      rcases hmem with hmem | hmem
      · exact .inl ⟨_, List.mem_cons_self, hmem⟩
      · split_ifs at hmem with hs
        · obtain rfl := List.mem_singleton.mp hmem
          obtain rfl : severity = s := hs
          exact .inr ⟨rfl, rfl⟩
        · cases hmem
    · exact .inl ⟨fs, List.mem_cons_of_mem _ hfs, hmem⟩
  · -- the new result is a copy of the findings, so it holds nothing that was not there
    have hthere : fs ∈ c.findings :: c.results := by simpa [or_comm] using hfs
    exact .inl ⟨fs, hthere, hmem⟩
  · rcases List.mem_cons.mp hfs with rfl | hfs
    · rw [Findings.ofSeverity_append, List.mem_append] at hmem
      rcases hmem with hmem | hmem
      · exact .inl ⟨_, List.mem_cons_self, hmem⟩
      · exact .inl ⟨taken, List.mem_cons_of_mem _ (List.mem_of_getElem? hn), hmem⟩
    · exact .inl ⟨fs, List.mem_cons_of_mem _ hfs, hmem⟩

lemma holds_after (h : c.after steps = some c') (hf : c'.Holds s f) :
    c.Holds s f ∨ ∃ a ∈ steps, a.Records s f := by
  induction steps generalizing c with
  | nil =>
    cases h
    exact .inl hf
  | cons a steps ih =>
    obtain ⟨b, hb, hsteps⟩ := after_cons_eq_some.mp h
    rcases ih hsteps with hf | ⟨a', ha', hrecords⟩
    · exact (holds_step hb hf).imp_right fun hrecords => ⟨a, List.mem_cons_self, hrecords⟩
    · exact .inr ⟨a', List.mem_cons_of_mem _ ha', hrecords⟩

lemma not_holds_empty : ¬ empty.Holds s f := by
  rintro ⟨fs, hfs, hmem⟩
  obtain rfl := List.mem_singleton.mp hfs
  cases s <;> cases hmem

/-! ## Validation at a collector -/

/-- The step that records a finding. -/
def Step.ofFinding (f : Finding) : Step := .record f.severity f.message f.path f.suggestion

lemma after_map_ofFinding (c : Collector) (row : List Finding) :
    c.after (row.map Step.ofFinding) = some { c with findings := c.findings.recordAll row } := by
  induction row generalizing c with
  | nil => rfl
  | cons f row ih =>
    rw [List.map_cons, after_cons_eq_some]
    exact ⟨_, rfl, ih _⟩

/-- What is found in a submission is frozen from a collector that was empty and has recorded, one
after another, the remarks of all checks, or the one on a text that cannot be read. -/
theorem exists_run_of_validate {v : Validator} {depth : ℕ} {sub : Submission} {fs : Findings}
    (h : v.validate depth sub = .ok fs) :
    ∃ row, run (row.map Step.ofFinding ++ [.freeze]) = some ⟨fs, [fs]⟩ ∧
      match sub.document? depth with
      | none => row = [Check.invalidSyntax]
      | some d => v.remarks d sub.label = .ok row := by
  have hrun (row : List Finding) : run (row.map Step.ofFinding ++ [.freeze]) =
      some ⟨.ofList row, [.ofList row]⟩ :=
    after_append_eq_some.mpr ⟨_, after_map_ofFinding empty row, rfl⟩
  cases hdocument : sub.document? depth with
  | none =>
    rw [Validator.validate_of_unread hdocument] at h
    cases h
    exact ⟨_, hrun _, rfl⟩
  | some d =>
    rw [Validator.validate_of_document? hdocument] at h
    obtain ⟨row, hrow, rfl⟩ := Outcome.bind_pure_eq_ok.mp h
    exact ⟨row, hrun row, hrow⟩

/-! ## Steps that can be run -/

/-- Whenever a result is taken in, it has been frozen before. -/
def RefersBack (steps : List Step) : Prop :=
  ∀ before n later, steps = before ++ .extend n :: later → n < before.count .freeze

lemma length_results_run (h : run steps = some c) : c.results.length = steps.count .freeze := by
  rw [length_results h]
  exact Nat.zero_add _

lemma RefersBack.of_append (h : RefersBack (steps ++ later)) : RefersBack steps := by
  rintro before n rest rfl
  exact h before n (rest ++ later) (by simp)

/-- A row of steps can be run if and only if it takes in earlier results only. -/
lemma isSome_run_iff : (run steps).isSome = true ↔ RefersBack steps := by
  constructor
  · rintro h before n later rfl
    obtain ⟨c, hc⟩ := Option.isSome_iff_exists.mp h
    obtain ⟨b, hb, hlater⟩ := after_append_eq_some.mp hc
    obtain ⟨_, hstep, -⟩ := after_cons_eq_some.mp hlater
    obtain ⟨fs, hfs, -⟩ := Option.map_eq_some_iff.mp hstep
    have hlt : n < b.results.length := (List.getElem?_eq_some_iff.mp hfs).1
    rwa [length_results_run hb] at hlt
  · intro h
    -- from the end: whether a result is there when it is taken in depends on the steps before
    induction steps using List.reverseRecOn with
    | nil => rfl
    | append_singleton steps a ih =>
      obtain ⟨b, hb⟩ := Option.isSome_iff_exists.mp (ih h.of_append)
      have hstep : ∃ c, b.step a = some c := by
        cases a with
        | record severity message path suggestion => exact ⟨_, rfl⟩
        | freeze => exact ⟨_, rfl⟩
        | extend n =>
          have hlt : n < b.results.length := length_results_run hb ▸ h steps n [] rfl
          exact ⟨_, Option.map_eq_some_iff.mpr ⟨_, List.getElem?_eq_getElem hlt, rfl⟩⟩
      obtain ⟨c, hc⟩ := hstep
      exact Option.isSome_iff_exists.mpr
        ⟨c, after_append_eq_some.mpr ⟨b, hb, after_cons_eq_some.mpr ⟨c, hc, rfl⟩⟩⟩

instance : Decidable (RefersBack steps) := decidable_of_iff _ isSome_run_iff

/-- A result is what the collector held when it was frozen. -/
lemma getElem?_results (h : run (before ++ .freeze :: later) = some c) :
    ∃ b, run before = some b ∧ c.results[before.count .freeze]? = some b.findings := by
  obtain ⟨b, hb, hlater⟩ := after_append_eq_some.mp h
  obtain ⟨b', hfreeze, hlater⟩ := after_cons_eq_some.mp hlater
  have hfrozen : b'.results = b.results ++ [b.findings] := results_step hfreeze
  have hlast : b'.results[before.count .freeze]? = some b.findings := by
    rw [hfrozen, ← length_results_run hb]
    exact List.getElem?_concat_length
  exact ⟨b, hb, getElem?_of_prefix (prefix_results hlater) hlast⟩

/-- What a collector answers for that has come through some steps.  Every finding, in its results as
well, stands in the list of its own severity and was recorded by a step, and each list is what the
steps have brought to it, in their order.  The results are what was there when each of them was
frozen.  The score goes by the numbers of findings and is no higher than it was after any first part
of the steps; and an error, once it is recorded, shows in every verdict. -/
structure Accounts (steps : List Step) (c : Collector) : Prop where
  sorted : ∀ s f, c.Holds s f → f.severity = s ∧ .record s f.message f.path f.suggestion ∈ steps
  lists : ∀ s, c.findings.ofSeverity s = steps.flatMap (Step.brings c.results s)
  count : c.results.length = steps.count .freeze
  frozen : ∀ before later, steps = before ++ .freeze :: later →
    ∃ b, run before = some b ∧ c.results[before.count .freeze]? = some b.findings
  score : c.findings.score = max 0
    (100 - 20 * c.findings.errors.length - 5 * c.findings.warnings.length -
      c.findings.info.length : ℤ)
  falls : ∀ before later, steps = before ++ later →
    ∃ b, run before = some b ∧ c.findings.score ≤ b.findings.score
  failed : ∀ message path suggestion, .record .error message path suggestion ∈ steps →
    c.findings.isValid = false ∧ c.findings.status = .invalid ∧ c.findings.band ≠ .good

lemma errors_ne_nil (h : run steps = some c) {message : Text} {path suggestion : Option Text}
    (hmem : .record .error message path suggestion ∈ steps) : c.findings.errors ≠ [] := by
  have hlist : c.findings.errors = steps.flatMap (Step.brings c.results .error) :=
    ofSeverity_after h (s := .error)
  have hbrought : ⟨.error, message, path, suggestion⟩ ∈ c.findings.errors := by
    rw [hlist]
    exact List.mem_flatMap.mpr ⟨_, hmem, List.mem_singleton.mpr rfl⟩
  exact List.ne_nil_of_mem hbrought

/-- Every row of steps that takes in earlier results only can be run, and the collector accounts for
all of it. -/
theorem run_accounts (h : RefersBack steps) : ∃ c, run steps = some c ∧ c.Accounts steps := by
  obtain ⟨c, hc⟩ := Option.isSome_iff_exists.mp (isSome_run_iff.mpr h)
  refine ⟨c, hc, ?sorted, ?lists, length_results_run hc, ?frozen, c.findings.score_eq, ?falls,
    ?failed⟩
  case sorted =>
    intro s f hholds
    obtain ⟨a, ha, hseverity, rfl⟩ := (holds_after hc hholds).resolve_left not_holds_empty
    exact ⟨hseverity, ha⟩
  case lists =>
    intro s
    rw [ofSeverity_after hc]
    cases s <;> rfl
  case frozen =>
    rintro before later rfl
    exact getElem?_results hc
  case falls =>
    rintro before later rfl
    obtain ⟨b, hb, hlater⟩ := after_append_eq_some.mp hc
    exact ⟨b, hb, score_after_le hlater⟩
  case failed =>
    intro message path suggestion hmem
    have herrors := errors_ne_nil hc hmem
    exact ⟨Findings.isValid_eq_false herrors, Findings.status_eq_invalid herrors,
      Findings.band_ne_good herrors⟩

/-- An error and a warning that come back from the collector's own results, twice as many each
time. -/
def echo : List Step :=
  [.record .error "Missing name" (some "name") none,
    .record .warning "Short" none (some "Add more"), .freeze, .extend 0, .freeze, .extend 1,
    .record .info "Seen" none none]

theorem echo_accounts :
    RefersBack echo ∧ ∃ c, run echo = some c ∧ c.Accounts echo ∧
      c.findings.errors.length = 4 ∧ c.findings.score = 0 ∧
      c.results[1]?.map (·.errors.length) = some 2 := by
  have hrefers : RefersBack echo := by decide
  obtain ⟨c, hc, haccounts⟩ := run_accounts hrefers
  have hrun : (run echo).map (fun c => (c.findings.errors.length, c.findings.score,
      c.results[1]?.map (·.errors.length))) = some (4, 0, some 2) := by decide
  rw [hc] at hrun
  simp only [Option.map_some, Option.some.injEq, Prod.mk.injEq] at hrun
  exact ⟨hrefers, c, hc, haccounts, hrun⟩

end Collector

end StructuredData
