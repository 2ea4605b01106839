import StructuredData.Proofs.Check.Names
import StructuredData.Proofs.Json.RoundTrip
import StructuredData.Proofs.Text.Blanks
import StructuredData.Proofs.Validator.Comparison

/-!
# A member of an unknown name

A document gets one more member, anywhere among the others, under a name that it does not have yet,
that no check looks up and that the selected requirements do not list.  Then the errors and the
notes stay as they are, and so do the warnings, but for one that may come in at one place
(`Check.remarkOn`): about a text that is blank, or one that holds a placeholder
(`validate_unknownMember`).

Checks that look names up cannot see the member.  The two that go through all texts say what they
said before and after it, and at most one of them has something to say about it, since a blank text
holds no placeholder.
-/

namespace StructuredData

namespace Check

/-! ## What is said about the member -/

/-- The warning for a text without anything but blanks in it. -/
def blankTextAt (name : Text) : Finding :=
  .warningAt name ("Empty value for property: " ++ name)
    "Provide meaningful content for better SEO"

/-- The warning for a text that holds a placeholder. -/
def placeholderAt (name : Text) : Finding :=
  .warningAt name ("Generic placeholder content detected in " ++ name)
    "Replace placeholder content with actual meaningful content"

/-- What is said about a member for its value alone: something if it is a text that is blank, or
else one that holds a placeholder phrase in letters of either case. -/
def remarkOn (name : Text) : Value → List Finding
  | .string t =>
    if ∀ c ∈ t, c.isBlank = true then [blankTextAt name]
    else if ∃ phrase ∈ placeholderPhrases, phrase <:+: t.lower then [placeholderAt name]
    else []
  | _ => []

variable {name : Text} {w : Value} {t : Text}

/-- What the check of empty values says about one text. -/
def emptyRemark (m : Text × Text) : List Finding := when m.2.strip.isEmpty (blankTextAt m.1)

/-- What the check of placeholders says about one text. -/
def placeholderRemark (m : Text × Text) : List Finding :=
  when (hasPlaceholder m.2) (placeholderAt m.1)

/-- What a check of each text says about a member: nothing if it is no text. -/
def onText (check : Text × Text → List Finding) (name : Text) (w : Value) : List Finding :=
  match w.text? with
  | none => []
  | some t => check (name, t)

lemma onlyWarns_remarkOn (name : Text) (w : Value) : OnlyWarns (remarkOn name w) := by
  unfold remarkOn
  split
  · split_ifs <;> simp [OnlyWarns, blankTextAt, placeholderAt, Finding.warningAt]
  · exact nofun

lemma hasPlaceholder_iff :
    hasPlaceholder t = true ↔ ∃ phrase ∈ placeholderPhrases, phrase <:+: t.lower := by
  simp only [hasPlaceholder, List.any_eq_true, Text.hasPart_iff_isInfix]

/-- Each phrase has a code point that is no blank, and a blank text has none. -/
lemma not_hasPlaceholder_of_blank (h : ∀ c ∈ t, c.isBlank = true) : hasPlaceholder t = false := by
  have hphrases : ∀ phrase ∈ placeholderPhrases, ∃ c ∈ phrase, c.isBlank = false := by
    decide
  rw [Bool.eq_false_iff, ne_eq, hasPlaceholder_iff, Text.lower_eq_self_of_blank h]
  rintro ⟨phrase, hphrase, hpart⟩
  obtain ⟨c, hc, hnot⟩ := hphrases phrase hphrase
  have hblank := h c (hpart.subset hc)
  rw [hnot] at hblank
  cases hblank

/-- At most one of the two checks has something to say about a member, and says what it
deserves. -/
lemma remarkOn_cases (name : Text) (w : Value) :
    (onText emptyRemark name w = remarkOn name w ∧ onText placeholderRemark name w = []) ∨
      (onText emptyRemark name w = [] ∧ onText placeholderRemark name w = remarkOn name w) := by
  cases w with
  | string t =>
    have hempty : onText emptyRemark name (.string t) =
        when t.strip.isEmpty (blankTextAt name) := rfl
    have hplaceholder : onText placeholderRemark name (.string t) =
        when (hasPlaceholder t) (placeholderAt name) := rfl
    rw [hempty, hplaceholder, remarkOn]
    by_cases hblank : ∀ c ∈ t, c.isBlank = true
    · left
      rw [if_pos hblank, not_hasPlaceholder_of_blank hblank, Text.strip_eq_nil_iff.mpr hblank]
      exact ⟨rfl, rfl⟩
    · right
      have hstrip : t.strip.isEmpty = false := by
        rw [Bool.eq_false_iff, ne_eq, List.isEmpty_iff, Text.strip_eq_nil_iff]
        exact hblank
      rw [if_neg hblank, hstrip]
      by_cases hphrase : ∃ phrase ∈ placeholderPhrases, phrase <:+: t.lower
      · rw [if_pos hphrase, hasPlaceholder_iff.mpr hphrase]
        exact ⟨rfl, rfl⟩
      · rw [if_neg hphrase, Bool.eq_false_iff.mpr (mt hasPlaceholder_iff.mp hphrase)]
        exact ⟨rfl, rfl⟩
  | _ => exact .inl ⟨rfl, rfl⟩

/-! ## Rows with something put in -/

/-- The second row is the first with the extra findings put in at one place. -/
def Inserted (extra row row' : List Finding) : Prop :=
  ∃ us ws, row = us ++ ws ∧ row' = us ++ extra ++ ws

namespace Inserted

variable {extra row row' : List Finding}

lemma eq_of_nil (h : Inserted [] row row') : row = row' := by
  obtain ⟨us, ws, rfl, rfl⟩ := h
  rw [List.append_nil]

lemma append_right (h : Inserted extra row row') (more : List Finding) :
    Inserted extra (row ++ more) (row' ++ more) := by
  obtain ⟨us, ws, rfl, rfl⟩ := h
  exact ⟨us, ws ++ more, by simp, by simp⟩

lemma append_left (h : Inserted extra row row') (more : List Finding) :
    Inserted extra (more ++ row) (more ++ row') := by
  obtain ⟨us, ws, rfl, rfl⟩ := h
  exact ⟨more ++ us, ws, by simp, by simp⟩

lemma filter (h : Inserted extra row row') (p : Finding → Bool) :
    Inserted (extra.filter p) (row.filter p) (row'.filter p) := by
  obtain ⟨us, ws, rfl, rfl⟩ := h
  exact ⟨us.filter p, ws.filter p, by simp, by simp⟩

/-- Of findings with some warnings put in, errors and notes are the same. -/
lemma ofList (h : Inserted extra row row') (hextra : OnlyWarns extra) :
    (Findings.ofList row').errors = (Findings.ofList row).errors ∧
      (Findings.ofList row').info = (Findings.ofList row).info ∧
      Inserted extra (Findings.ofList row).warnings (Findings.ofList row').warnings := by
  have herror := h.filter (·.severity = .error)
  have hinfo := h.filter (·.severity = .info)
  have hwarning := h.filter (·.severity = .warning)
  rw [hextra.filter_eq] at herror hinfo hwarning
  simp only [Findings.errors_ofList, Findings.info_ofList, Findings.warnings_ofList]
  exact ⟨herror.eq_of_nil.symm, hinfo.eq_of_nil.symm, hwarning⟩

end Inserted

end Check

/-! ## The document with the member -/

variable {before after : Members} {name : Text} {w : Value}

lemma Members.get?_insert_of_ne {other : Text} (h : other ≠ name) (before after : Members)
    (w : Value) :
    get? other (before ++ (name, w) :: after) = get? other (before ++ after) := by
  induction before with
  | nil => rw [List.nil_append, List.nil_append, get?, if_neg h.symm]
  | cons m rest ih => rw [List.cons_append, List.cons_append, get?, get?, ih]

/-- Nothing looked up under another name is changed. -/
lemma Document.agreeOn_insert {names : List Text} (h : name ∉ names) (before after : Members)
    (w : Value) : AgreeOn names ⟨before ++ after⟩ ⟨before ++ (name, w) :: after⟩ := by
  intro other hother
  have hne : other ≠ name := ne_of_mem_of_not_mem hother h
  show (Members.get? other (before ++ after)).getD .null =
    (Members.get? other (before ++ (name, w) :: after)).getD .null
  rw [Members.get?_insert_of_ne hne]

namespace Check

variable {t : Thresholds} {label : Value}

/-- A check of all texts says about the others what it said, and about the member what it says. -/
lemma strings_flatMap_inserted (check : Text × Text → List Finding) (before after : Members)
    (name : Text) (w : Value) :
    Inserted (onText check name w) ((Document.mk (before ++ after)).strings.flatMap check)
      ((Document.mk (before ++ (name, w) :: after)).strings.flatMap check) := by
  refine ⟨(Document.mk before).strings.flatMap check, (Document.mk after).strings.flatMap check,
    ?_, ?_⟩
  · simp [Document.strings]
  · cases w <;> simp [Document.strings, onText, Value.text?]

lemma content_inserted (hname : name ∉ contentNames) :
    Inserted (remarkOn name w) (content t ⟨before ++ after⟩ label)
      (content t ⟨before ++ (name, w) :: after⟩ label) := by
  have hagree := Document.agreeOn_insert hname before after w
  have hempty : Inserted _ (emptyValues _) (emptyValues _) :=
    strings_flatMap_inserted emptyRemark before after name w
  have hplaceholders : Inserted _ (placeholders _) (placeholders _) :=
    strings_flatMap_inserted placeholderRemark before after name w
  rw [content_eq, content_eq, ← lengthRemarks_eq_of_agreeOn hagree,
    ← closingRemarks_eq_of_agreeOn hagree]
  apply Inserted.append_right
  rcases remarkOn_cases name w with ⟨he, hp⟩ | ⟨he, hp⟩
  · rw [he] at hempty
    rw [hp] at hplaceholders
    rw [hplaceholders.eq_of_nil]
    exact (hempty.append_right _).append_right _
  · rw [he] at hempty
    rw [hp] at hplaceholders
    rw [hempty.eq_of_nil]
    exact hplaceholders.append_left _

end Check

namespace Validator

variable {v : Validator} {label : Value}

lemma remarks_inserted (hname : name ∉ Check.readNames)
    (hentry : ∀ r, v.table.select ⟨before ++ after⟩ label = .ok (some r) →
      name ∉ r.required ++ r.recommended) :
    Outcome.Alike (Check.Inserted (Check.remarkOn name w)) (v.remarks ⟨before ++ after⟩ label)
      (v.remarks ⟨before ++ (name, w) :: after⟩ label) := by
  have hagree : ∀ {names : List Text}, name ∉ names →
      Document.AgreeOn names ⟨before ++ after⟩ ⟨before ++ (name, w) :: after⟩ :=
    fun h => Document.agreeOn_insert h before after w
  obtain ⟨hkeyword, htypeName, hformat, hcontent⟩ := Check.notMem_readNames_iff.mp hname
  have hkeywords := Check.keywords_eq_of_agreeOn (hagree hkeyword)
  have hrequired := Check.requirements_eq_of_agreeOn (hagree hkeyword)
    fun r hr => hagree (hentry r hr)
  have htypeSpecific := Check.typeSpecific_eq_of_agreeOn (t := v.thresholds) (hagree htypeName)
  have hformats := Check.datatypes_eq_of_agreeOn (t := v.thresholds) (hagree hformat)
  have hresolved : Document.resolvedLabel ⟨before ++ (name, w) :: after⟩ label =
      Document.resolvedLabel ⟨before ++ after⟩ label := by
    simp (disch := decide) only [Document.resolvedLabel, (hagree hkeyword).primaryType_eq]
  unfold remarks
  rw [← hrequired, ← hformats, hresolved, ← htypeSpecific, ← hkeywords]
  refine Outcome.Alike.bind (.of_eq (fun _ => Eq.refl _) rfl) ?_
  rintro required _ rfl
  refine Outcome.Alike.bind (.of_eq (fun _ => Eq.refl _) rfl) ?_
  rintro typed _ rfl
  exact .ok ((Check.content_inserted hcontent).append_left _)

/-- Two texts write documents of which the second has one member more, under a name that is none of
those that checks look up and none that the requirements list which the first is held against.  Then
validating them fails with the same fault, or both are validated: with the same errors, the same
notes and the same warnings, but for the remark that comes in at one place, if the member deserves
one for its value.  Since readable documents name each member once, the name is new to the
document. -/
theorem validate_unknownMember (v : Validator) (label : Value) {depth : ℕ} {text text' : Text}
    (hread : Json.read depth text = .ok (.object (before ++ after)))
    (hread' : Json.read depth text' = .ok (.object (before ++ (name, w) :: after)))
    (hname : name ∉ Check.readNames)
    (hentry : ∀ r, v.table.select ⟨before ++ after⟩ label = .ok (some r) →
      name ∉ r.required ++ r.recommended) :
    Outcome.Alike (fun fs fs' => fs'.errors = fs.errors ∧ fs'.info = fs.info ∧
        ∃ us ws, fs.warnings = us ++ ws ∧ fs'.warnings = us ++ Check.remarkOn name w ++ ws)
      (v.validate depth ⟨label, .string text⟩) (v.validate depth ⟨label, .string text'⟩) := by
  rw [validate_of_document? (Submission.document?_of_read label hread),
    validate_of_document? (Submission.document?_of_read label hread')]
  refine (remarks_inserted hname hentry).bind fun row row' hrow => ?_
  exact .ok (hrow.ofList (Check.onlyWarns_remarkOn name w))

/-- The first member of a person's document. -/
def personStart : Members := [("@type", .string "Person")]

/-- The last member of a person's document. -/
def personEnd : Members := [("name", .string "Ada")]

/-- A motto that was never written. -/
def unwrittenMotto : Value := .string "Coming Soon!"

/-- A person with a name. -/
def person : Text := Json.pretty (.object (personStart ++ personEnd))

/-- The same person with a motto between type and name. -/
def personWithMotto : Text :=
  Json.pretty (.object (personStart ++ (("motto" : Text), unwrittenMotto) :: personEnd))

theorem personWithMotto_remark :
    ∃ fs fs', (Validator.mk RequirementTable.packaged {}).validate 985
        ⟨.string "Person", .string person⟩ = .ok fs ∧
      (Validator.mk RequirementTable.packaged {}).validate 985
        ⟨.string "Person", .string personWithMotto⟩ = .ok fs' ∧
      fs'.errors = fs.errors ∧ fs'.info = fs.info ∧
      ∃ us ws, fs.warnings = us ++ ws ∧
        fs'.warnings = us ++ [Check.placeholderAt "motto"] ++ ws := by
  have hplain : ∀ ms : Members, (ms.map Prod.fst).Nodup → (∀ m ∈ ms, m.2.text?.isSome = true) →
      (Value.object ms).Plain 1 := by
    intro ms hnodup htexts
    refine .object hnodup fun m hm => ?_
    have htext := htexts m hm
    obtain ⟨name, v⟩ := m
    cases v with
    | string t => exact .string 0 t
    | _ => cases htext
  have hread : Json.read 985 person = .ok (.object (personStart ++ personEnd)) :=
    Json.read_pretty ((hplain _ (by decide) (by decide)).mono (by decide))
  have hread' : Json.read 985 personWithMotto =
      .ok (.object (personStart ++ (("motto" : Text), unwrittenMotto) :: personEnd)) :=
    Json.read_pretty ((hplain _ (by decide) (by decide)).mono (by decide))
  have hlisted : ∀ r ∈ RequirementTable.packaged.find? "Person",
      ("motto" : Text) ∉ r.required ++ r.recommended := by
    decide
  have hselect : RequirementTable.packaged.select ⟨personStart ++ personEnd⟩ (.string "Person") =
      .ok (RequirementTable.packaged.find? "Person") := rfl
  have halike := validate_unknownMember (Validator.mk RequirementTable.packaged {})
    (.string "Person") hread hread' (by decide)
    fun r hr => hlisted r (Except.ok.inj (hselect.symm.trans hr))
  have hremark : Check.remarkOn "motto" unwrittenMotto = [Check.placeholderAt "motto"] := by
    decide
  have hanswers : ((Validator.mk RequirementTable.packaged {}).validate 985
      ⟨.string "Person", .string person⟩).toOption.isSome = true := by
    decide +kernel
  rw [hremark] at halike
  obtain ⟨fs, hfs⟩ := Outcome.exists_eq_ok_of_isSome hanswers
  rw [hfs] at halike ⊢
  obtain ⟨fs', hfs', herrors, hinfo, hwarnings⟩ := halike.exists_of_ok
  exact ⟨fs, fs', rfl, hfs', herrors, hinfo, hwarnings⟩

end Validator

end StructuredData
