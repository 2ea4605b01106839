import StructuredData.Proofs.Check.Openings
import StructuredData.Proofs.Json.Depth
import StructuredData.Proofs.Json.Member
import StructuredData.Proofs.Page.Aggregation
import StructuredData.Proofs.Page.Labels
import StructuredData.Validator.Trace

/-!
# Documents that are passed over

The checks of a page as a whole look at the texts of its documents once more, and pass over those
that cannot be read and those that write no object.  A text that cannot be read is reported where
the document itself is validated, as its only finding and under a message of its own; a value that
is no object is validated there as an object without members.  What is not passed over is warned of
exactly when it lacks what its declared type promises (`KeepsPromise`).

The main result, `passed_over_or_reported`, puts the two sides together for all documents of a
page.  The two read up to depths of their own, and so a text that is passed over is reported unless
it nests too deep for the one place alone.  Then it is not (`deepArticle_not_reported`).
-/

namespace StructuredData

open Check

namespace Finding

/-- The finding says that a text cannot be read. -/
def isInvalidSyntax (f : Finding) : Bool := f.message = invalidSyntax.message

/-- How the warning begins that a document of a type is not complete. -/
def incompletenessOpening (type : Text) : Text := type ++ " schema may be missing "

/-- The finding says that a document lacks what its declared type promises. -/
def isIncompleteness (f : Finding) : Bool :=
  (["Article", "Product", "Organization"] : List Text).any fun type =>
    (incompletenessOpening type).isPrefixOf f.message

end Finding

/-! ## The document itself -/

namespace Validator

variable {v : Validator} {depth : ℕ} {s : Submission} {value : Value} {d : Document} {label : Value}
  {row : List Finding} {fs : Findings}

/-- A text that cannot be read has one finding. -/
lemma validate_of_parsed?_eq_none (h : s.parsed? depth = none) :
    v.validate depth s = .ok ⟨[invalidSyntax], [], []⟩ := by
  have hdocument : s.document? depth = none := by
    unfold Submission.document?
    rw [h]
    rfl
  exact validate_of_unread hdocument

lemma validate_of_parsed?_eq_some (h : s.parsed? depth = some value) :
    v.validate depth s = (v.remarks (Document.ofValue value) s.label >>= fun row =>
      .ok (Findings.ofList row)) := by
  have hdocument : s.document? depth = some (Document.ofValue value) := by
    unfold Submission.document?
    rw [h]
    rfl
  exact validate_of_document? hdocument

/-- No check says of a document that it cannot be read. -/
lemma isInvalidSyntax_of_remarks (h : v.remarks d label = .ok row) :
    ∀ f ∈ row, f.isInvalidSyntax = false := by
  obtain ⟨entry, typed, htyped, rfl⟩ := remarks_eq_ok h
  have hopening {row : List Finding} (hrow : HasOpenings row) :
      ∀ f ∈ row, f.isInvalidSyntax = false := fun f hf =>
    decide_eq_false (ne_of_hasOpening (by decide) (hrow f hf))
  have hmismatch : ∀ f ∈ mismatch d label, f.isInvalidSyntax = false :=
    forall_when _ (decide_eq_false fun h => absurd (List.head_eq_of_cons_eq h) (by decide))
  refine forall_append (forall_append (forall_append (forall_append ?_ ?_) ?_) ?_) ?_
  · exact hopening hasOpenings_keywords
  · exact forall_append hmismatch (hopening (hasOpenings_missingProperties entry))
  · exact hopening (hasOpenings_typeSpecific _)
  · exact hopening (hasOpenings_datatypes htyped)
  · exact hopening (hasOpenings_content label)

lemma mem_toList_ofList {f : Finding} : f ∈ (Findings.ofList row).toList ↔ f ∈ row := by
  have hfilter (fs : List Finding) : f ∈ fs.filter (·.severity = f.severity) ↔ f ∈ fs := by simp
  rw [← hfilter, Findings.filter_toList_ofList, hfilter]

lemma isInvalidSyntax_of_validate (hparsed : s.parsed? depth = some value)
    (h : v.validate depth s = .ok fs) : ∀ f ∈ fs.toList, f.isInvalidSyntax = false := by
  rw [validate_of_parsed?_eq_some hparsed] at h
  obtain ⟨row, hrow, hfs⟩ := Outcome.bind_eq_ok.mp h
  cases hfs
  intro f hf
  exact isInvalidSyntax_of_remarks hrow f (mem_toList_ofList.mp hf)

/-- The text of an object without members. -/
def emptyObject : Text := "\x7b\x7d"

/-- A value that is no object is validated as an object without members. -/
lemma validate_of_isObject_eq_false (hdepth : depth ≠ 0) (hparsed : s.parsed? depth = some value)
    (hobject : value.isObject = false) :
    v.validate depth s = v.validate depth ⟨s.label, .string emptyObject⟩ := by
  obtain ⟨depth, rfl⟩ := Nat.exists_eq_succ_of_ne_zero hdepth
  have hmembers : Document.ofValue value = ⟨[]⟩ := by
    cases value with
    | object ms => cases hobject
    | _ => rfl
  have hempty : (⟨s.label, .string emptyObject⟩ : Submission).parsed? (depth + 1) =
      some (.object []) := rfl
  rw [validate_of_parsed?_eq_some hparsed, validate_of_parsed?_eq_some hempty, hmembers]
  rfl

end Validator

/-! ## The page as a whole -/

namespace Page

/-- A value has what the type that it is declared to be promises: an article says what it is about,
by whom it is and when it was published, a product can be bought, and an organization can be
reached. -/
structure KeepsPromise (label : Value) (v : Value) : Prop where
  article : label = .string "Article" → v.Supplies "headline" ∧ v.Supplies "description" ∧
    (v.Supplies "author" ∨ v.Supplies "publisher") ∧
    (v.Supplies "datePublished" ∨ v.Supplies "dateModified")
  product : label = .string "Product" →
    v.Supplies "offers" ∨ v.Supplies "price" ∨ v.Supplies "availability"
  organization : label = .string "Organization" →
    v.Supplies "address" ∧ v.Supplies "contactPoint"

/-- What a document adds to the warnings on its page that documents are not complete: nothing if it
is passed over, and otherwise one warning, which names its type, exactly if it does not keep the
promise of its type. -/
structure Contributes (depth : ℕ) (s : Submission) (row : List Finding) : Prop where
  unreadable : s.parsed? depth = none → row = []
  noObject : ∀ value, s.parsed? depth = some value → value.isObject = false → row = []
  complete : ∀ ms, s.parsed? depth = some (.object ms) → KeepsPromise s.label (.object ms) →
    row = []
  incomplete : ∀ ms, s.parsed? depth = some (.object ms) → ¬ KeepsPromise s.label (.object ms) →
    ∃ f type, row = [f] ∧ f.severity = .warning ∧ s.label = .string type ∧
      (Finding.incompletenessOpening type).isPrefixOf f.message = true

variable {t : Thresholds} {depth : ℕ} {ss : List Submission} {s : Submission} {label : Value}
  {ms : Members} {row : List Finding}

lemma isText_iff {type : Text} : label.isText type = true ↔ label = .string type := by
  unfold Value.isText
  cases label <;> simp [Value.text?]

lemma has_iff_supplies (ms : Members) (name : Text) :
    (Document.mk ms).has name = true ↔ (Value.object ms).Supplies name :=
  Document.has_ofValue (v := .object ms)

lemma isCompleteArticle_iff :
    isCompleteArticle ⟨ms⟩ = true ↔ (Value.object ms).Supplies "headline" ∧
      (Value.object ms).Supplies "description" ∧
      ((Value.object ms).Supplies "author" ∨ (Value.object ms).Supplies "publisher") ∧
      ((Value.object ms).Supplies "datePublished" ∨ (Value.object ms).Supplies "dateModified") := by
  simp only [isCompleteArticle, Bool.and_eq_true, Bool.or_eq_true, has_iff_supplies, and_assoc]

lemma isCompleteProduct_iff :
    isCompleteProduct ⟨ms⟩ = true ↔ (Value.object ms).Supplies "offers" ∨
      (Value.object ms).Supplies "price" ∨ (Value.object ms).Supplies "availability" := by
  simp only [isCompleteProduct, Bool.or_eq_true, has_iff_supplies, or_assoc]

lemma isCompleteOrganization_iff :
    isCompleteOrganization ⟨ms⟩ = true ↔ (Value.object ms).Supplies "address" ∧
      (Value.object ms).Supplies "contactPoint" := by
  simp only [isCompleteOrganization, Bool.and_eq_true, has_iff_supplies]

lemma keepsPromise_article {v : Value} (h : label = .string "Article") :
    KeepsPromise label v ↔ v.Supplies "headline" ∧ v.Supplies "description" ∧
      (v.Supplies "author" ∨ v.Supplies "publisher") ∧
      (v.Supplies "datePublished" ∨ v.Supplies "dateModified") := by
  subst h
  refine ⟨fun hkeeps => hkeeps.article rfl, fun hkeeps => ⟨fun _ => hkeeps, ?_, ?_⟩⟩
  all_goals exact fun h => absurd (Value.string.inj h) (by decide)

lemma keepsPromise_product {v : Value} (h : label = .string "Product") :
    KeepsPromise label v ↔
      v.Supplies "offers" ∨ v.Supplies "price" ∨ v.Supplies "availability" := by
  subst h
  refine ⟨fun hkeeps => hkeeps.product rfl, fun hkeeps => ⟨?_, fun _ => hkeeps, ?_⟩⟩
  all_goals exact fun h => absurd (Value.string.inj h) (by decide)

lemma keepsPromise_organization {v : Value} (h : label = .string "Organization") :
    KeepsPromise label v ↔ v.Supplies "address" ∧ v.Supplies "contactPoint" := by
  subst h
  refine ⟨fun hkeeps => hkeeps.organization rfl, fun hkeeps => ⟨?_, ?_, fun _ => hkeeps⟩⟩
  all_goals exact fun h => absurd (Value.string.inj h) (by decide)

lemma completeness_of_parsed? (h : s.parsed? depth = some (.object ms)) :
    completeness depth s = incomplete s.label ⟨ms⟩ := by
  unfold completeness
  rw [h]

/-- An object whose type promises something is warned of unless it is complete. -/
lemma contributes_when {type : Text} {complete : Bool} {f : Finding}
    (hparsed : s.parsed? depth = some (.object ms)) (hlabel : s.label = .string type)
    (hcomplete : KeepsPromise s.label (.object ms) ↔ complete = true)
    (hseverity : f.severity = .warning)
    (hopening : (Finding.incompletenessOpening type).isPrefixOf f.message = true) :
    Contributes depth s (when (!complete) f) where
  unreadable h := by
    rw [hparsed] at h
    cases h
  noObject value h hobject := by
    rw [hparsed] at h
    cases h
    cases hobject
  complete ms' h hkeeps := by
    rw [hparsed] at h
    cases h
    rw [hcomplete.mp hkeeps]
    rfl
  incomplete ms' h hbreaks := by
    rw [hparsed] at h
    cases h
    rw [Bool.eq_false_iff.mpr fun h => hbreaks (hcomplete.mpr h)]
    exact ⟨f, type, rfl, hseverity, hlabel, hopening⟩

lemma contributes_completeness (depth : ℕ) (s : Submission) :
    Contributes depth s (completeness depth s) := by
  cases hparsed : s.parsed? depth with
  | none =>
    have hnone : completeness depth s = [] := by
      unfold completeness
      rw [hparsed]
    rw [hnone]
    exact ⟨fun _ => rfl, fun _ _ _ => rfl, fun _ _ _ => rfl, fun ms h => by simp [hparsed] at h⟩
  | some value =>
    cases value with
    | object ms =>
      rw [completeness_of_parsed? hparsed]
      unfold incomplete
      split_ifs with harticle hproduct horganization
      · have hlabel := isText_iff.mp harticle
        exact contributes_when hparsed hlabel
          ((keepsPromise_article hlabel).trans isCompleteArticle_iff.symm) rfl rfl
      · have hlabel := isText_iff.mp hproduct
        exact contributes_when hparsed hlabel
          ((keepsPromise_product hlabel).trans isCompleteProduct_iff.symm) rfl rfl
      · have hlabel := isText_iff.mp horganization
        exact contributes_when hparsed hlabel
          ((keepsPromise_organization hlabel).trans isCompleteOrganization_iff.symm) rfl rfl
      · -- whatever else it is declared to be, an object promises nothing
        have hkeeps : ∀ v, KeepsPromise s.label v := fun v =>
          ⟨fun h => absurd (isText_iff.mpr h) harticle, fun h => absurd (isText_iff.mpr h) hproduct,
            fun h => absurd (isText_iff.mpr h) horganization⟩
        exact ⟨fun _ => rfl, fun _ _ _ => rfl, fun _ _ _ => rfl,
          fun ms _ h => absurd (hkeeps _) h⟩
    | _ =>
      have hnone : completeness depth s = [] := by
        unfold completeness
        rw [hparsed]
      rw [hnone]
      exact ⟨fun _ => rfl, fun _ _ _ => rfl, fun _ _ _ => rfl,
        fun ms h => by simp [hparsed] at h⟩

/-! ## All remarks on a page -/

lemma isIncompleteness_completeness (depth : ℕ) (s : Submission) :
    ∀ f ∈ completeness depth s, f.isIncompleteness = true := by
  unfold completeness incomplete
  split
  · split_ifs
    · exact forall_when _ rfl
    · exact forall_when _ rfl
    · exact forall_when _ rfl
    · exact nofun
  · exact nofun

lemma filter_eq_nil_of_forall {p : Finding → Bool} (h : ∀ f ∈ row, p f = false) :
    row.filter p = [] := by
  rw [List.filter_eq_nil_iff]
  intro f hf hp
  rw [h f hf] at hp
  cases hp

/-- The warnings that documents are not complete are those that the documents add. -/
lemma filter_isIncompleteness_of_remarks (h : remarks t depth ss = .ok row) :
    row.filter (·.isIncompleteness) = ss.flatMap (completeness depth) := by
  obtain ⟨count, -, hrow⟩ := Outcome.bind_eq_ok.mp h
  cases hrow
  have hconflicts : ∀ f ∈ conflicts ss, f.isIncompleteness = false :=
    forall_flatMap fun _ => forall_when _ rfl
  have hfoundation : ∀ f ∈ foundation ss, f.isIncompleteness = false := forall_when _ rfl
  have hcount : ∀ f ∈ typeCountRemark t count, f.isIncompleteness = false := by
    unfold typeCountRemark
    split_ifs
    · exact forall_when true rfl
    · exact forall_when _ rfl
  have hdocuments : (ss.flatMap (completeness depth)).filter (·.isIncompleteness) =
      ss.flatMap (completeness depth) :=
    List.filter_eq_self.mpr (forall_flatMap (isIncompleteness_completeness depth))
  simp only [List.filter_append, filter_eq_nil_of_forall hconflicts,
    filter_eq_nil_of_forall hfoundation, filter_eq_nil_of_forall hcount, hdocuments,
    List.nil_append, List.append_nil]

/-- Sorting the remarks on a page by severity keeps the warnings that documents are not complete. -/
lemma filter_isIncompleteness_pageFindings {v : Validator} {work : ℕ} {r : PageReport}
    (h : r.Aggregates v work depth ss) :
    r.pageFindings.filter (·.isIncompleteness) = ss.flatMap (completeness depth) := by
  obtain ⟨row, hrow, hpage⟩ := h.page
  have hfilter := filter_isIncompleteness_of_remarks hrow
  have hwarns : Check.OnlyWarns (row.filter (·.isIncompleteness)) := by
    rw [hfilter]
    exact forall_flatMap (onlyWarns_completeness depth)
  rw [hpage, List.filter_append, List.filter_comm, hwarns.filter_eq, List.filter_comm,
    hwarns.filter_eq, hfilter]
  simp

end Page

/-! ## Both sides together -/

namespace Validator

/-- The record tells that a text was passed over because it cannot be read. -/
def passesOverText (record : LogRecord) : Bool :=
  (Text.ofString "Skipping unparseable").isPrefixOf record.message

lemma parsed?_eq_none_of_passesOverText {depth : ℕ} {s : Submission} {record : LogRecord}
    (h : record ∈ skipRecord depth s) (hpasses : passesOverText record = true) :
    s.parsed? depth = none := by
  unfold skipRecord at h
  split at h
  · assumption
  · cases h
  · rw [List.mem_singleton.mp h] at hpasses
    cases hpasses

/-- What is found in one document of a page is among the errors of the page. -/
lemma mem_errors_of_validate {v : Validator} {depth page : ℕ} {ss : List Submission}
    {r : PageReport} (h : r.Aggregates v depth page ss) {s : Submission} (hs : s ∈ ss)
    {fs : Findings} (hfs : v.validate depth s = .ok fs) :
    ∀ f ∈ fs.errors, f ∈ r.findings.errors := by
  intro f hf
  obtain ⟨i, hi, rfl⟩ := List.getElem_of_mem hs
  have hi' : i < r.documents.length := h.documents.length_eq ▸ hi
  obtain ⟨-, hfindings⟩ := h.documents.get hi hi'
  have hown := Except.ok.inj (hfindings.symm.trans hfs)
  rw [h.errors, List.mem_flatMap]
  exact ⟨r.documents.get ⟨i, hi'⟩, List.get_mem _ _, hown ▸ hf⟩

/-- A text that cannot be read where it is validated has exactly one finding there, an error; a text
that can be read never has that finding, and a value that is no object has those of an object
without members.  On the page as a whole neither of the two is warned of, as far as texts are read
there, and an object is exactly if it does not keep the promise of its type.  Both places read a
text alike if it nests deep enough for both or for neither.  What the log tells to be passed over as
unreadable on the page is among the errors of the page, unless it nests deeper than texts are read
there and no deeper than they are read where they are validated. -/
theorem passed_over_or_reported (v : Validator) (ss : List Submission) :
    (∀ depth s fs, v.validate depth s = .ok fs →
      (s.parsed? depth = none → fs = ⟨[invalidSyntax], [], []⟩ ∧ fs.score = 80) ∧
      ∀ value, s.parsed? depth = some value →
        (∀ f ∈ fs.toList, f.message ≠ invalidSyntax.message) ∧
        (depth ≠ 0 → value.isObject = false →
          v.validate depth ⟨s.label, .string emptyObject⟩ = .ok fs)) ∧
    (∀ depths : Depths, ∃ rows, List.Forall₂ (Page.Contributes depths.page) ss rows ∧
      ∀ workers r, v.validatePage depths workers ss = .ok r →
        r.pageFindings.filter (·.isIncompleteness) = rows.flatten) ∧
    (∀ (depths : Depths) (workers : Option ℤ), ∀ s ∈ ss,
      (s.nesting ≤ depthAtWork depths workers ss ↔ s.nesting ≤ depths.page) →
        s.parsed? (depthAtWork depths workers ss) = s.parsed? depths.page) ∧
    ∀ (depths : Depths) (workers : Option ℤ), ∀ s ∈ ss, ∀ record ∈ skipRecord depths.page s,
      passesOverText record = true →
        (depths.page < s.nesting ∧ s.nesting ≤ depthAtWork depths workers ss) ∨
        (v.validate (depthAtWork depths workers ss) s = .ok ⟨[invalidSyntax], [], []⟩ ∧
          ∀ r, v.validatePage depths workers ss = .ok r → invalidSyntax ∈ r.findings.errors) := by
  refine ⟨fun depth s fs hfs => ⟨fun hparsed => ?_, fun value hparsed => ⟨fun f hf => ?_, ?_⟩⟩,
    fun depths => ?_, fun _ _ _ _ => Submission.parsed?_congr, ?_⟩
  · rw [validate_of_parsed?_eq_none hparsed] at hfs
    cases hfs
    exact ⟨rfl, rfl⟩
  · exact of_decide_eq_false (isInvalidSyntax_of_validate hparsed hfs f hf)
  · intro hdepth hobject
    rw [← validate_of_isObject_eq_false hdepth hparsed hobject]
    exact hfs
  · refine ⟨ss.map (Page.completeness depths.page), ?_, ?_⟩
    · rw [List.forall₂_map_right_iff, List.forall₂_same]
      exact fun s _ => Page.contributes_completeness depths.page s
    · intro workers r hr
      rw [Page.filter_isIncompleteness_pageFindings (aggregates_of_validatePage hr),
        List.flatMap_def]
  · intro depths workers s hs record hrecord hpasses
    have hpage := parsed?_eq_none_of_passesOverText hrecord hpasses
    by_cases hdeep : depths.page < s.nesting ∧ s.nesting ≤ depthAtWork depths workers ss
    · exact .inl hdeep
    · -- the text cannot be read where it is validated either
      have hunread := Submission.parsed?_eq_none_of_not_between hpage hdeep
      have hfs := validate_of_parsed?_eq_none (v := v) hunread
      exact .inr ⟨hfs, fun r hr => mem_errors_of_validate (aggregates_of_validatePage hr) hs hfs _
        (List.mem_singleton_self _)⟩

/-- A page of an organization that breaks off, a list that is declared as an article, and a product
that cannot be bought. -/
def brokenPage : List Submission :=
  [.ofTexts "Organization" "\x7b\"name\":", .ofTexts "Article" "[]",
    .ofTexts "Product" "\x7b\"@type\": \"Product\", \"offers\": null\x7d"]

theorem brokenPage_passed_over :
    (∃ fs, (Validator.mk RequirementTable.packaged {}).validate 988 (.ofTexts "Article" "[]") =
        .ok fs ∧ (Validator.mk RequirementTable.packaged {}).validate 988
          ⟨.string "Article", .string emptyObject⟩ = .ok fs) ∧
      ∃ r rows,
        (Validator.mk RequirementTable.packaged {}).validatePage .hundredDown (some 2) brokenPage =
          .ok r ∧
        invalidSyntax ∈ r.findings.errors ∧
        List.Forall₂ (Page.Contributes 893) brokenPage rows ∧ rows.flatten.length = 1 := by
  obtain ⟨hdocument, hpages, -, hpassed⟩ :=
    passed_over_or_reported (Validator.mk RequirementTable.packaged {}) brokenPage
  obtain ⟨rows, hrows, hpage⟩ := hpages .hundredDown
  have hlist : ((Validator.mk RequirementTable.packaged {}).validate 988
      (.ofTexts "Article" "[]")).toOption.isSome = true := by
    decide +kernel
  obtain ⟨fs, hfs⟩ := Outcome.exists_eq_ok_of_isSome hlist
  have hreport : ((Validator.mk RequirementTable.packaged {}).validatePage .hundredDown (some 2)
      brokenPage).toOption.map (fun r => (r.pageFindings.filter (·.isIncompleteness)).length) =
        some 1 := by
    decide +kernel
  obtain ⟨r, hr, hcount⟩ := Option.map_eq_some_iff.mp hreport
  have hr := Outcome.eq_ok_of_toOption hr
  have hshallow : ¬ Depths.hundredDown.page <
      (Submission.ofTexts "Organization" "\x7b\"name\":").nesting := by
    decide +kernel
  obtain ⟨hdeep, -⟩ | ⟨-, herrors⟩ :=
    hpassed .hundredDown (some 2) _ List.mem_cons_self _ List.mem_cons_self rfl
  · exact absurd hdeep hshallow
  rw [hpage (some 2) r hr] at hcount
  exact ⟨⟨fs, hfs, ((hdocument 988 _ fs hfs).2 (.array []) rfl).2 (by decide) rfl⟩, r, rows, hr,
    herrors r hr, hrows, hcount⟩

/-- A page with an article of which nothing is said but what it cites, nine hundred lists deep. -/
def deepArticle : List Submission :=
  [.ofTexts "Article" ("\x7b\"citation\": " ++ Text.nestedLists 900 ++ "\x7d"),
    .ofTexts "WebSite" "\x7b\x7d"]

/-- A hundred calls down, two workers read the article, so that it is not reported as unreadable,
and yet it is passed over as unreadable on the page and not warned of. -/
theorem deepArticle_not_reported :
    ∃ s ∈ deepArticle, ∃ record ∈ skipRecord Depths.hundredDown.page s,
      passesOverText record = true ∧
      ∃ r, (Validator.mk RequirementTable.packaged {}).validatePage .hundredDown (some 2)
          deepArticle = .ok r ∧
        invalidSyntax ∉ r.findings.errors ∧ r.pageFindings.filter (·.isIncompleteness) = [] := by
  have hskipped : (skipRecord Depths.hundredDown.page (.ofTexts "Article"
      ("\x7b\"citation\": " ++ Text.nestedLists 900 ++ "\x7d"))).any passesOverText = true := by
    decide +kernel
  have hreport : ((Validator.mk RequirementTable.packaged {}).validatePage .hundredDown (some 2)
      deepArticle).toOption.map (fun r => decide (invalidSyntax ∉ r.findings.errors ∧
        r.pageFindings.filter (·.isIncompleteness) = [])) = some true := by
    decide +kernel
  obtain ⟨record, hrecord, hpasses⟩ := List.any_eq_true.mp hskipped
  obtain ⟨r, hr, hnone⟩ := Option.map_eq_some_iff.mp hreport
  exact ⟨_, List.mem_cons_self, record, hrecord, hpasses, r, Outcome.eq_ok_of_toOption hr,
    of_decide_eq_true hnone⟩

end Validator

end StructuredData
