import StructuredData.Proofs.Check.Openings
import StructuredData.Proofs.Validator.Comparison
import StructuredData.Proofs.Validator.Validity

/-!
# What the declared type decides

A document that names a type of its own, and one that has an entry in the table, is held against
that entry and checked as a document of that type, whatever it is declared to be.  The declared type
then shows in two warnings only: that the document is of another type, and that the headline of
a declared article is too long for search results.  `label_cannot_override` says so, and that
the first of the two is given exactly once if the declared type is none of the document's, and not
at all otherwise.
-/

namespace StructuredData

/-! ## The two warnings -/

namespace Finding

/-- The finding says that a document is of another type than the declared one. -/
def isTypeMismatch (f : Finding) : Bool :=
  (Text.ofString "Schema type mismatch: expected \"").isPrefixOf f.message

/-- The finding says that a headline is too long for search results. -/
def isSearchHeadline (f : Finding) : Bool := f.message = "Headline is too long for optimal SEO"

/-- The finding goes by the declared type. -/
def goesByLabel (f : Finding) : Bool := f.isTypeMismatch || f.isSearchHeadline

end Finding

/-- The same warnings in the same order, apart from those that are skipped. -/
def WarningComparison.outside (skip : Finding → Bool) : WarningComparison where
  rel ws ws' := ws.filter (!skip ·) = ws'.filter (!skip ·)
  refl _ := rfl
  append h h' := by rw [List.filter_append, List.filter_append, h, h']

namespace Check

variable {d : Document} {t : Thresholds} {row row' : List Finding} {skip : Finding → Bool}

/-- Two warnings that are skipped, each under a condition of its own. -/
lemma when_agree_outside {condition condition' : Bool} {f f' : Finding}
    (hf : f.severity = .warning) (hf' : f'.severity = .warning) (hskip : skip f = true)
    (hskip' : skip f' = true) :
    RowsAgree (.outside skip) (when condition f) (when condition' f') := by
  refine .of_onlyWarns (forall_when _ hf) (forall_when _ hf') ?_
  have hnone : ∀ (condition : Bool) (g : Finding), skip g = true →
      (when condition g).filter (!skip ·) = [] := by
    intro condition g hg
    cases condition <;> simp [when, hg]
  exact (hnone _ _ hskip).trans (hnone _ _ hskip').symm

lemma isTypeMismatch_warning (rest suggestion : Text) :
    (Finding.warning ("Schema type mismatch: expected \"" ++ rest) suggestion).isTypeMismatch =
      true := by
  unfold Finding.isTypeMismatch Finding.warning
  rw [List.isPrefixOf_iff_prefix]
  exact List.prefix_append _ _

/-! ## No other check speaks of the type -/

/-- None of the findings in a row says that the document is of another type. -/
def NoMismatch (row : List Finding) : Prop := ∀ f ∈ row, f.isTypeMismatch = false

lemma NoMismatch.countP_filter (h : NoMismatch row) (p : Finding → Bool) :
    (row.filter p).countP (·.isTypeMismatch) = 0 := by
  rw [List.countP_eq_zero]
  intro f hf
  simp [h f (List.mem_of_mem_filter hf)]

lemma HasOpenings.noMismatch (h : HasOpenings row) : NoMismatch row := fun f hf =>
  not_prefix_of_hasOpening (by decide) (h f hf)

/-! ## The warning about the type -/

lemma isDeclaredType_string (label : Text) :
    isDeclaredType d (.string label) = true ↔ label ∈ d.types := by
  simp [isDeclaredType, Value.isText, Value.text?]

/-- A document that names types is told that it is of another type if the declared one is none of
them. -/
lemma countP_mismatch {label : Text} (htypes : d.types ≠ []) :
    (mismatch d (.string label)).countP (·.isTypeMismatch) = if label ∈ d.types then 0 else 1 := by
  have hempty : d.types.isEmpty = false := by
    rw [Bool.eq_false_iff, ne_eq, List.isEmpty_iff]
    exact htypes
  unfold mismatch
  by_cases hlabel : label ∈ d.types
  · have hdeclared := (isDeclaredType_string label).mpr hlabel
    simp [when, hdeclared, hlabel]
  · have hdeclared : isDeclaredType d (.string label) = false := by
      rw [Bool.eq_false_iff, ne_eq, isDeclaredType_string]
      exact hlabel
    simp [when, hempty, hdeclared, hlabel, isTypeMismatch_warning]

end Check

/-! ## Validation under two labels -/

namespace Validator

variable {v : Validator} {d : Document} {own : Text} {r : Requirement}

/-- A document of a type with an entry is held against that entry. -/
lemma entryFor_of_primaryType (hown : d.primaryType = some own)
    (hentry : v.table.find? own = some r) (label : Text) : v.table.entryFor d label = some r := by
  simp [RequirementTable.entryFor, hown, hentry]

lemma remarks_agree_outside (hown : d.primaryType = some own) (hentry : v.table.find? own = some r)
    (label label' : Text) :
    Outcome.Alike (Check.RowsAgree (.outside Finding.goesByLabel)) (v.remarks d (.string label))
      (v.remarks d (.string label')) := by
  have hresolved : ∀ l : Text, d.resolvedLabel (.string l) = .string own := by
    intro l
    rw [resolvedLabel_string, hown]
    rfl
  have hmismatch : Check.RowsAgree (.outside Finding.goesByLabel)
      (Check.mismatch d (.string label)) (Check.mismatch d (.string label')) := by
    refine Check.when_agree_outside rfl rfl ?_ ?_ <;>
      simp only [Finding.goesByLabel, List.append_assoc, Check.isTypeMismatch_warning,
        Bool.true_or]
  have hheadline : Check.RowsAgree (.outside Finding.goesByLabel)
      (Check.headlineLength v.thresholds d (.string label))
      (Check.headlineLength v.thresholds d (.string label')) :=
    Check.when_agree_outside rfl rfl rfl rfl
  refine remarks_alike (.refl _) ?_ ?_ (.of_eq .refl rfl) ?_
  · rw [Check.requirements_string, Check.requirements_string, entryFor_of_primaryType hown hentry,
      entryFor_of_primaryType hown hentry]
    exact .ok (hmismatch.append (.refl _))
  · rw [hresolved, hresolved]
    exact .refl _
  · exact Check.content_agree (.refl _) (.refl _) (.refl _) hheadline (.refl _) (.refl _) (.refl _)
      (.refl _)

/-- Only the check of the declared type tells a document that it is of another type. -/
lemma countP_isTypeMismatch {label : Text} {row : List Finding} (htypes : d.types ≠ [])
    (h : v.remarks d (.string label) = .ok row) :
    (Findings.ofList row).warnings.countP (·.isTypeMismatch) =
      if label ∈ d.types then 0 else 1 := by
  obtain ⟨typed, htyped, rfl⟩ := remarks_string_eq_ok h
  have hwarns : Check.OnlyWarns (Check.mismatch d (.string label)) :=
    Check.forall_when _ rfl
  have hkeywords := (Check.hasOpenings_keywords (d := d)).noMismatch
  have hmissing := (Check.hasOpenings_missingProperties (d := d)
    (v.table.entryFor d label)).noMismatch
  have htypeSpecific := (Check.hasOpenings_typeSpecific (t := v.thresholds) (d := d)
    (d.resolvedLabel (.string label))).noMismatch
  have hdatatypes := (Check.hasOpenings_datatypes htyped).noMismatch
  have hcontent := (Check.hasOpenings_content (t := v.thresholds) (d := d)
    (.string label)).noMismatch
  rw [Findings.warnings_ofList]
  simp only [List.filter_append, List.countP_append, hkeywords.countP_filter,
    hmissing.countP_filter, htypeSpecific.countP_filter, hdatatypes.countP_filter,
    hcontent.countP_filter, hwarns.filter_eq,
    if_true, Check.countP_mismatch htypes, Nat.zero_add, Nat.add_zero]

/-- A document whose first type has an entry in the table is validated alike whatever it is declared
to be: the errors, the notes and the validity are the same, and so are the warnings apart from those
that go by the declared type.  It is told that it is of another type once, if the declared type is
none of those that it names, and otherwise not at all. -/
theorem label_cannot_override (v : Validator) {depth : ℕ} {text own : Text} {value : Value}
    {r : Requirement} (hread : Json.read depth text = .ok value)
    (hown : (Document.ofValue value).primaryType = some own)
    (hentry : v.table.find? own = some r) :
    (∀ label label' : Text,
      Outcome.Alike (fun fs fs' => fs.errors = fs'.errors ∧ fs.info = fs'.info ∧
          fs.isValid = fs'.isValid ∧
          fs.warnings.filter (!·.goesByLabel) = fs'.warnings.filter (!·.goesByLabel))
        (v.validate depth (.ofTexts label text)) (v.validate depth (.ofTexts label' text))) ∧
    ∀ (label : Text) (fs : Findings), v.validate depth (.ofTexts label text) = .ok fs →
      fs.warnings.countP (·.isTypeMismatch) =
        if label ∈ (Document.ofValue value).types then 0 else 1 := by
  constructor
  · intro label label'
    have hagree := validate_alike (Submission.document?_of_read (.string label) hread)
      (Submission.document?_of_read (.string label') hread)
      (remarks_agree_outside hown hentry label label')
    refine hagree.imp fun fs fs' hfs => ⟨hfs.errors, hfs.info, ?_, hfs.warnings⟩
    rw [Findings.isValid, Findings.isValid, hfs.errors]
  · intro label fs hfs
    have htypes : (Document.ofValue value).types ≠ [] := by
      intro hnil
      simp [Document.primaryType, hnil] at hown
    rw [validate_of_read_eq_ok hread] at hfs
    obtain ⟨row, hrow, hlist⟩ := Outcome.bind_eq_ok.mp hfs
    cases hlist
    exact countP_isTypeMismatch htypes hrow

/-- A person, who is an article as well, and whose headline has eight code points. -/
def portrait : Text :=
  "\x7b\"@type\": [0, \"\", \"Person\", \"Article\"], \"headline\": \"About me\"\x7d"

theorem portrait_label :
    ∃ fs fs', (Validator.mk RequirementTable.packaged { headlineMaxLength := 7 }).validate 985
        (.ofTexts "Article" portrait) = .ok fs ∧
      (Validator.mk RequirementTable.packaged { headlineMaxLength := 7 }).validate 985
        (.ofTexts "Recipe" portrait) = .ok fs' ∧
      fs.errors = fs'.errors ∧
      fs.warnings.filter (!·.goesByLabel) = fs'.warnings.filter (!·.goesByLabel) ∧
      fs.warnings.countP (·.isTypeMismatch) = 0 ∧ fs'.warnings.countP (·.isTypeMismatch) = 1 := by
  have hread : (Json.read 985 portrait).toOption.map (fun value => (Document.ofValue value).types) =
      some [Text.ofString "Person", Text.ofString "Article"] := by
    decide +kernel
  obtain ⟨value, hvalue, htypes⟩ := Option.map_eq_some_iff.mp hread
  have hown : (Document.ofValue value).primaryType = some (Text.ofString "Person") := by
    unfold Document.primaryType
    rw [htypes]
    rfl
  obtain ⟨halike, hcount⟩ := label_cannot_override
    (Validator.mk RequirementTable.packaged { headlineMaxLength := 7 })
    (Outcome.eq_ok_of_toOption hvalue) hown (rfl : _ = some _)
  have hok : ((Validator.mk RequirementTable.packaged { headlineMaxLength := 7 }).validate 985
      (.ofTexts "Article" portrait)).toOption.isSome = true := by
    decide +kernel
  obtain ⟨fs, hfirst⟩ := Outcome.exists_eq_ok_of_isSome hok
  have hboth := halike "Article" "Recipe"
  rw [hfirst] at hboth
  obtain ⟨fs', hsecond, herrors, -, -, hwarnings⟩ := hboth.exists_of_ok
  rw [htypes] at hcount
  exact ⟨fs, fs', hfirst, hsecond, herrors, hwarnings, hcount _ _ hfirst, hcount _ _ hsecond⟩

end Validator

end StructuredData
