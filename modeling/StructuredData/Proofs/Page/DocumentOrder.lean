import StructuredData.Proofs.Json.Depth
import StructuredData.Proofs.Page.Aggregation
import StructuredData.Proofs.Page.Labels

/-!
# The order of documents is no matter

A page whose documents are handed in in another order gets the same advice and the same verdict, the
same findings up to their order, and for each document what is found in it, in the document's new
place.  A document of a type that is declared already adds no remark on the page but its own, and
takes advice away at most.
-/

namespace StructuredData

open Check

/-- The report on some documents and that on the same documents in other places: the documents have
changed places with what is found in them, and apart from the order of findings nothing else has
changed. -/
structure PageReport.SameButPlaces (texts texts' : List (Text × Text)) (r r' : PageReport) :
    Prop where
  recommendations : r'.recommendations = r.recommendations
  documents : r'.documents.Perm r.documents
  places : ∀ i j : ℕ, texts'[i]? = texts[j]? → r'.documents[i]? = r.documents[j]?
  errors : r'.findings.errors.Perm r.findings.errors
  warnings : r'.findings.warnings.Perm r.findings.warnings
  info : r'.findings.info.Perm r.findings.info
  pageFindings : r'.pageFindings.Perm r.pageFindings
  isValid : r'.isValid = r.isValid

namespace Page

variable {texts texts' : List (Text × Text)} {t : Thresholds} {depth : ℕ}
  {row row' : List Finding}

lemma labels_eq_of_perm (h : texts.Perm texts') : labels texts = labels texts' :=
  List.toFinset_eq_of_perm _ _ (h.map Prod.fst)

lemma labels_append_singleton {s : Text × Text} (hs : s.1 ∈ texts.map Prod.fst) :
    labels (texts ++ [s]) = labels texts := by
  ext name
  simp only [labels, List.map_append, List.map_singleton, List.mem_toFinset, List.mem_append,
    List.mem_singleton]
  constructor
  · rintro (h | rfl)
    · exact h
    · exact hs
  · exact .inl

/-! ## Remarks on the page as a whole -/

lemma remarks_perm (h : texts.Perm texts')
    (hrow : remarks t depth (Submission.page texts) = .ok row)
    (hrow' : remarks t depth (Submission.page texts') = .ok row') : row.Perm row' := by
  have hlabels := labels_eq_of_perm h
  rw [remarks_page_eq] at hrow hrow'
  cases hrow
  cases hrow'
  rw [conflicts_congr hlabels, foundation_congr hlabels, hlabels]
  have hdocuments : (Submission.page texts).Perm (Submission.page texts') := h.map _
  exact ((hdocuments.flatMap_right (completeness depth)).append_left _).append_right _

/-- A document of a type that is declared already is remarked on in one place, if at all. -/
lemma remarks_append_singleton (t : Thresholds) (depth : ℕ) {s : Text × Text}
    (hs : s.1 ∈ texts.map Prod.fst) :
    ∃ before after, remarks t depth (Submission.page texts) = .ok (before ++ after) ∧
      remarks t depth (Submission.page (texts ++ [s])) =
        .ok (before ++ completeness depth (.ofTexts s.1 s.2) ++ after) := by
  have hlabels := labels_append_singleton hs
  refine ⟨conflicts (Submission.page texts) ++ foundation (Submission.page texts) ++
    (Submission.page texts).flatMap (completeness depth),
    typeCountRemark t (labels texts).card, remarks_page_eq t depth texts, ?_⟩
  rw [remarks_page_eq, conflicts_congr hlabels, foundation_congr hlabels, hlabels]
  have hpage : Submission.page (texts ++ [s]) = Submission.page texts ++ [.ofTexts s.1 s.2] :=
    List.map_append
  rw [hpage, List.flatMap_append, List.flatMap_singleton]
  simp only [List.append_assoc]

lemma recommendations_eq_of_perm (h : texts.Perm texts') :
    recommendations t (Submission.page texts) = recommendations t (Submission.page texts') := by
  have hlabels := labels_eq_of_perm h
  refine List.Sublist.antisymm ?_ ?_
  · exact recommendations_sublist hlabels h.length_eq.ge
  · exact recommendations_sublist hlabels.symm h.length_eq.le

end Page

/-! ## Rows of findings -/

namespace Findings

lemma toList_ofList (row : List Finding) :
    (ofList row).toList = row.filter (·.severity = .error) ++ row.filter (·.severity = .warning) ++
      row.filter (·.severity = .info) := by
  rw [toList, errors_ofList, warnings_ofList, info_ofList]

lemma toList_ofList_perm {row row' : List Finding} (h : row.Perm row') :
    (ofList row).toList.Perm (ofList row').toList := by
  rw [toList_ofList, toList_ofList]
  exact ((h.filter _).append (h.filter _)).append (h.filter _)

/-- Warnings that are put into a row are put into the list of its findings. -/
lemma toList_ofList_insert {before own after : List Finding} (h : OnlyWarns own) :
    ∃ before' after', (ofList (before ++ after)).toList = before' ++ after' ∧
      (ofList (before ++ own ++ after)).toList = before' ++ own ++ after' := by
  refine ⟨(before ++ after).filter (·.severity = .error) ++ before.filter (·.severity = .warning),
    after.filter (·.severity = .warning) ++ (before ++ after).filter (·.severity = .info), ?_, ?_⟩
  · simp only [toList_ofList, List.filter_append, List.append_assoc]
  · simp [toList_ofList, List.filter_append, h.filter_eq]

end Findings

namespace Validator

variable {v : Validator} {depth : ℕ} {depths : Depths} {workers : Option ℤ}
  {texts texts' : List (Text × Text)} {r r' : PageReport}

/-! ## Documents in other places -/

/-- What stands in a place of a row of documents is what is found in the submission in that
place. -/
lemma getElem?_of_validateInTurn {ss : List Submission} {documents : List ValidatedDocument}
    (h : v.validateInTurn depth ss = .ok documents) (i : ℕ) :
    documents[i]? = ss[i]?.bind fun s => (v.validateDocument depth s).toOption := by
  have hrow := Outcome.mapM_eq_ok.mp h
  clear h
  induction hrow generalizing i with
  | nil => rfl
  | cons hs _ ih =>
    cases i with
    | zero => simp [hs, Except.toOption]
    | succ i => simpa using ih i

lemma validateInTurn_perm {ss ss' : List Submission} {documents : List ValidatedDocument}
    (hperm : ss.Perm ss') (h : v.validateInTurn depth ss = .ok documents) :
    ∃ documents', v.validateInTurn depth ss' = .ok documents' ∧ documents'.Perm documents := by
  obtain ⟨documents', hrow, hdocuments⟩ :=
    List.perm_comp_forall₂ hperm.symm (Outcome.mapM_eq_ok.mp h)
  exact ⟨documents', Outcome.mapM_eq_ok.mpr hrow, hdocuments⟩

lemma places_of_validateInTurn {documents documents' : List ValidatedDocument}
    (h : v.validateInTurn depth (Submission.page texts) = .ok documents)
    (h' : v.validateInTurn depth (Submission.page texts') = .ok documents') {i j : ℕ}
    (hplace : texts'[i]? = texts[j]?) : documents'[i]? = documents[j]? := by
  rw [getElem?_of_validateInTurn h, getElem?_of_validateInTurn h', Submission.page,
    Submission.page, List.getElem?_map, List.getElem?_map, hplace]

/-- A page of as many documents is read by so many workers up to the same depth. -/
lemma depthAtWork_of_length_eq {ss ss' : List Submission} (h : ss'.length = ss.length) :
    depthAtWork depths workers ss' = depthAtWork depths workers ss := by
  unfold depthAtWork usesPool
  rw [h]

lemma depthAtWork_perm (hperm : texts.Perm texts') :
    depthAtWork depths workers (Submission.page texts') =
      depthAtWork depths workers (Submission.page texts) :=
  depthAtWork_of_length_eq (by simp [Submission.page, hperm.length_eq])

lemma sameButPlaces (hperm : texts.Perm texts')
    (h : v.validatePage depths workers (Submission.page texts) = .ok r)
    (h' : v.validatePage depths workers (Submission.page texts') = .ok r') :
    r.SameButPlaces texts texts' r' := by
  have haggregates := aggregates_of_validatePage h
  have haggregates' := aggregates_of_validatePage h'
  obtain ⟨documents, row, hdocuments, hrow, hr⟩ := validatePage_eq_ok_iff.mp h
  obtain ⟨documents', row', hdocuments', hrow', hr'⟩ := validatePage_eq_ok_iff.mp h'
  rw [depthAtWork_perm hperm] at hdocuments'
  have hmoved : r'.documents.Perm r.documents := by
    obtain ⟨found, hfound, hmoved⟩ := validateInTurn_perm (hperm.map _) hdocuments
    have hfound : documents' = found := Except.ok.inj (hdocuments'.symm.trans hfound)
    rw [hr, hr']
    exact hfound ▸ hmoved
  have hpage : r'.pageFindings.Perm r.pageFindings := by
    rw [hr, hr']
    exact (Findings.toList_ofList_perm (Page.remarks_perm hperm hrow hrow')).symm
  have herrors : r'.findings.errors.Perm r.findings.errors := by
    rw [haggregates'.errors, haggregates.errors]
    exact hmoved.flatMap_right _
  exact {
    recommendations := by
      rw [hr, hr']
      exact (Page.recommendations_eq_of_perm hperm).symm
    documents := hmoved
    places := fun i j hplace => by
      rw [hr, hr']
      exact places_of_validateInTurn hdocuments hdocuments' hplace
    errors := herrors
    warnings := by
      rw [haggregates'.warnings, haggregates.warnings]
      exact (hmoved.flatMap_right _).append (hpage.filter _)
    info := by
      rw [haggregates'.info, haggregates.info]
      exact (hmoved.flatMap_right _).append (hpage.filter _)
    pageFindings := hpage
    isValid := herrors.isEmpty_eq }

/-- With the order of documents, no page gains or loses its report. -/
lemma exists_report_of_perm (hperm : texts.Perm texts')
    (h : v.validatePage depths workers (Submission.page texts) = .ok r) :
    ∃ r', v.validatePage depths workers (Submission.page texts') = .ok r' := by
  obtain ⟨documents, _, hdocuments, -, -⟩ := validatePage_eq_ok_iff.mp h
  obtain ⟨documents', hdocuments', -⟩ := validateInTurn_perm (hperm.map _) hdocuments
  rw [← depthAtWork_perm hperm] at hdocuments'
  obtain ⟨row', hrow'⟩ := Page.remarks_page v.thresholds depths.page texts'
  exact ⟨_, validatePage_eq_ok_iff.mpr ⟨documents', row', hdocuments', hrow', rfl⟩⟩

/-! ## A further document -/

/-- If documents are read up to the same depth, no page loses its report with the further ones. -/
lemma exists_report_of_append {more : List (Text × Text)}
    (hdepth : depthAtWork depths workers (Submission.page (texts ++ more)) =
      depthAtWork depths workers (Submission.page texts))
    (h : v.validatePage depths workers (Submission.page (texts ++ more)) = .ok r') :
    ∃ r, v.validatePage depths workers (Submission.page texts) = .ok r := by
  obtain ⟨documents', _, hdocuments', -, -⟩ := validatePage_eq_ok_iff.mp h
  rw [hdepth] at hdocuments'
  have hall := Outcome.mapM_isOk_iff.mp ⟨documents', hdocuments'⟩
  have hfirst : ∃ documents, v.validateInTurn (depthAtWork depths workers (Submission.page texts))
      (Submission.page texts) = .ok documents := by
    refine Outcome.mapM_isOk_iff.mpr fun s hs => hall s ?_
    rw [Submission.page, List.map_append]
    exact List.mem_append_left _ hs
  obtain ⟨documents, hdocuments⟩ := hfirst
  obtain ⟨row, hrow⟩ := Page.remarks_page v.thresholds depths.page texts
  exact ⟨_, validatePage_eq_ok_iff.mpr ⟨documents, row, hdocuments, hrow, rfl⟩⟩

/-- A further document of a type that is declared already shows in the remarks on the page in one
place only. -/
lemma pageFindings_append_singleton {s : Text × Text} (hs : s.1 ∈ texts.map Prod.fst)
    (h : v.validatePage depths workers (Submission.page texts) = .ok r)
    (h' : v.validatePage depths workers (Submission.page (texts ++ [s])) = .ok r') :
    ∃ before after, r.pageFindings = before ++ after ∧
      r'.pageFindings = before ++ Page.completeness depths.page (.ofTexts s.1 s.2) ++ after := by
  obtain ⟨before, after, hremarks, hremarks'⟩ :=
    Page.remarks_append_singleton v.thresholds depths.page hs
  obtain ⟨_, row, -, hrow, rfl⟩ := validatePage_eq_ok_iff.mp h
  obtain ⟨_, row', -, hrow', rfl⟩ := validatePage_eq_ok_iff.mp h'
  rw [hremarks] at hrow
  rw [hremarks'] at hrow'
  cases hrow
  cases hrow'
  exact Findings.toList_ofList_insert (Page.onlyWarns_completeness _ _)

lemma recommendations_append_singleton {s : Text × Text} (hs : s.1 ∈ texts.map Prod.fst)
    (h : v.validatePage depths workers (Submission.page texts) = .ok r)
    (h' : v.validatePage depths workers (Submission.page (texts ++ [s])) = .ok r') :
    r'.recommendations.Sublist r.recommendations := by
  obtain ⟨_, _, -, -, rfl⟩ := validatePage_eq_ok_iff.mp h
  obtain ⟨_, _, -, -, rfl⟩ := validatePage_eq_ok_iff.mp h'
  exact Page.recommendations_sublist (Page.labels_append_singleton hs) (by simp)

/-! ## The page -/

/-- The report on a page does not depend on the order of its documents, apart from the order in
which it lists documents and findings.  A further document of a type that the page declares already
adds nothing to the remarks on the page but what is to be said of that document, at most one
warning, and no advice; and the page without it has a report as well, unless the further document
changes the depth up to which the others are read, as it does where it is the second one and there
are more workers than one. -/
theorem page_independent_of_order (v : Validator) (depths : Depths) (workers : Option ℤ) :
    (∀ (texts texts' : List (Text × Text)) (r : PageReport),
      texts.Perm texts' → v.validatePage depths workers (Submission.page texts) = .ok r →
      ∃ r', v.validatePage depths workers (Submission.page texts') = .ok r' ∧
        PageReport.SameButPlaces texts texts' r r') ∧
    ∀ (texts : List (Text × Text)) (s : Text × Text) (r' : PageReport),
      s.1 ∈ texts.map Prod.fst →
      v.validatePage depths workers (Submission.page (texts ++ [s])) = .ok r' →
      (depthAtWork depths workers (Submission.page (texts ++ [s])) =
          depthAtWork depths workers (Submission.page texts) →
        ∃ r, v.validatePage depths workers (Submission.page texts) = .ok r) ∧
      ∀ r, v.validatePage depths workers (Submission.page texts) = .ok r →
        (∃ before after, r.pageFindings = before ++ after ∧
          r'.pageFindings =
            before ++ Page.completeness depths.page (.ofTexts s.1 s.2) ++ after) ∧
        (Page.completeness depths.page (.ofTexts s.1 s.2)).length ≤ 1 ∧
        (∀ f ∈ Page.completeness depths.page (.ofTexts s.1 s.2), f.severity = .warning) ∧
        r'.recommendations.Sublist r.recommendations := by
  constructor
  · intro texts texts' r hperm hr
    obtain ⟨r', hr'⟩ := exists_report_of_perm hperm hr
    exact ⟨r', hr', sameButPlaces hperm hr hr'⟩
  · intro texts s r' hs hr'
    refine ⟨fun hdepth => exists_report_of_append hdepth hr', fun r hr => ?_⟩
    exact ⟨pageFindings_append_singleton hs hr hr', Page.length_completeness_le_one _ _,
      Page.onlyWarns_completeness _ _, recommendations_append_singleton hs hr hr'⟩

/-- A page with questions and a lamp for sale. -/
def lampPage : List (Text × Text) :=
  [("FAQPage", "\x7b\"name\": \"Lamps\"\x7d"), ("Product", "\x7b\"offers\": 5\x7d")]

/-- A further lamp, of which less is said. -/
def furtherLamp : Text × Text := ("Product", "\x7b\"name\": \"Lamp\"\x7d")

theorem lampPage_reversed_and_continued :
    ∃ r reversed continued,
      (Validator.mk RequirementTable.packaged {}).validatePage .hundredDown (some 2)
        (Submission.page lampPage) = .ok r ∧
      (Validator.mk RequirementTable.packaged {}).validatePage .hundredDown (some 2)
        (Submission.page lampPage.reverse) = .ok reversed ∧
      PageReport.SameButPlaces lampPage lampPage.reverse r reversed ∧
      (Validator.mk RequirementTable.packaged {}).validatePage .hundredDown (some 2)
        (Submission.page (lampPage ++ [furtherLamp])) = .ok continued ∧
      continued.pageFindings.length = r.pageFindings.length + 1 ∧
      continued.recommendations.Sublist r.recommendations := by
  obtain ⟨hperm, hmore⟩ := page_independent_of_order (Validator.mk RequirementTable.packaged {})
    .hundredDown (some 2)
  have hok : ((Validator.mk RequirementTable.packaged {}).validatePage .hundredDown (some 2)
      (Submission.page (lampPage ++ [furtherLamp]))).toOption.isSome = true := by
    decide +kernel
  obtain ⟨continued, hcontinued⟩ := Outcome.exists_eq_ok_of_isSome hok
  obtain ⟨hreport, hchange⟩ := hmore lampPage furtherLamp continued (by decide) hcontinued
  obtain ⟨r, hr⟩ := hreport rfl
  obtain ⟨⟨before, after, hbefore, hafter⟩, -, -, hadvice⟩ := hchange r hr
  obtain ⟨reversed, hreversed, hsame⟩ :=
    hperm lampPage lampPage.reverse r (List.reverse_perm _).symm hr
  have hown : (Page.completeness Depths.hundredDown.page
      (.ofTexts furtherLamp.1 furtherLamp.2)).length = 1 := by
    decide +kernel
  refine ⟨r, reversed, continued, hr, hreversed, hsame, hcontinued, ?_, hadvice⟩
  rw [hbefore, hafter]
  simp only [List.length_append, hown]
  omega

end Validator

end StructuredData
