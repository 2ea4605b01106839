import StructuredData.Proofs.Check.Openings
import StructuredData.Proofs.Check.Permissive
import StructuredData.Proofs.Text.Words

/-!
# Repeated words

Whether a description repeats a word too often depends on the words of the description and on how
often each of them occurs (`Repeats`), and on nothing else: the order of the words, the blanks
between them and the case of ASCII letters make no difference, and words that follow cannot make up
for a repetition.

The main result is `stuffing_of_words`.
-/

namespace StructuredData

/-! ## Words in another order -/

/-- The texts are made of the same words, each as often, in any order and with any blanks between
them. -/
def Text.Rearranged (s s' : Text) : Prop :=
  ∃ ws ws', Text.MadeOf ws s ∧ Text.MadeOf ws' s' ∧ ws.Perm ws'

lemma Text.Rearranged.lower {s s' : Text} (h : Text.Rearranged s s') :
    Text.Rearranged (Text.lower s) (Text.lower s') := by
  obtain ⟨ws, ws', hs, hs', hperm⟩ := h
  exact ⟨_, _, hs.lower, hs'.lower, hperm.map Text.lower⟩

namespace Check

variable {t : Thresholds} {d d' : Document} {label label' : Value} {s s' gap more : Text}
  {ws ws' : List Text}

/-! ## Repetition -/

/-- Some word of a row is long and occurs in it beyond the limit. -/
def Repeats (t : Thresholds) (ws : List Text) : Prop :=
  ∃ w ∈ ws, t.keywordMinLength < (w.length : ℤ) ∧ t.keywordRepeatLimit < (ws.count w : ℤ)

/-- Among the words of a text in small letters some long one occurs beyond the limit. -/
def RepeatsWord (t : Thresholds) (s : Text) : Prop :=
  ∃ ws, Text.MadeOf ws (Text.lower s) ∧ Repeats t ws

lemma Repeats.perm (h : Repeats t ws) (hperm : ws.Perm ws') : Repeats t ws' := by
  obtain ⟨w, hw, hlong, hoften⟩ := h
  refine ⟨w, hperm.mem_iff.mp hw, hlong, ?_⟩
  rwa [← hperm.count_eq]

lemma Repeats.append (h : Repeats t ws) (us : List Text) : Repeats t (ws ++ us) := by
  obtain ⟨w, hw, hlong, hoften⟩ := h
  refine ⟨w, List.mem_append_left us hw, hlong, ?_⟩
  rw [List.count_append]
  omega

/-- It is enough to look at the words that are read. -/
lemma repeatsWord_iff : RepeatsWord t s ↔ Repeats t (Text.blankSeparated (Text.lower s)) := by
  constructor
  · rintro ⟨ws, hws, h⟩
    rwa [hws.blankSeparated_eq]
  · intro h
    exact ⟨_, Text.madeOf_blankSeparated _, h⟩

lemma isStuffed_iff : isStuffed t s = true ↔ RepeatsWord t s := by
  rw [repeatsWord_iff, isStuffed, List.any_eq_true]
  constructor
  · rintro ⟨w, hw, hoften⟩
    have hmem := List.mem_filter.mp hw
    rw [decide_eq_true_eq, count_longWords hw] at hoften
    exact ⟨w, hmem.1, of_decide_eq_true hmem.2, hoften⟩
  · rintro ⟨w, hw, hlong, hoften⟩
    have hmem : w ∈ longWords t.keywordMinLength s :=
      List.mem_filter.mpr ⟨hw, decide_eq_true hlong⟩
    refine ⟨w, hmem, ?_⟩
    rwa [decide_eq_true_eq, count_longWords hmem]

/-- A text that repeats a word is not empty. -/
lemma RepeatsWord.ne_nil (h : RepeatsWord t s) : s ≠ [] := by
  rintro rfl
  obtain ⟨w, hw, -⟩ := repeatsWord_iff.mp h
  cases hw

/-- Neither the order of the words nor the blanks between them matter. -/
lemma RepeatsWord.rearranged (h : RepeatsWord t s) (hs : Text.Rearranged s s') :
    RepeatsWord t s' := by
  obtain ⟨ws, ws', hws, hws', hperm⟩ := hs.lower
  rw [repeatsWord_iff, hws.blankSeparated_eq] at h
  exact ⟨ws', hws', h.perm hperm⟩

lemma repeatsWord_congr (h : Text.Rearranged s s' ∨ Text.SameButCase s s') :
    RepeatsWord t s ↔ RepeatsWord t s' := by
  rcases h with h | h
  · obtain ⟨ws, ws', hws, hws', hperm⟩ := h
    exact ⟨fun hs => hs.rearranged ⟨ws, ws', hws, hws', hperm⟩,
      fun hs' => hs'.rearranged ⟨ws', ws, hws', hws, hperm.symm⟩⟩
  · unfold RepeatsWord
    rw [h.lower_eq]

/-- What follows after a blank cannot make up for a repetition. -/
lemma RepeatsWord.append (h : RepeatsWord t s) (hne : gap ≠ []) (hgap : Text.IsGap gap)
    (more : Text) : RepeatsWord t (s ++ gap ++ more) := by
  obtain ⟨ws, hws, hrepeats⟩ := h
  obtain ⟨us, hus⟩ := Text.exists_madeOf (Text.lower (gap ++ more))
  have hends : Text.EndsWord (gap ++ more) := by
    obtain ⟨c, gap, rfl⟩ := List.exists_cons_of_ne_nil hne
    rintro _ ⟨⟩
    exact hgap c List.mem_cons_self
  refine ⟨ws ++ us, ?_, hrepeats.append us⟩
  rw [List.append_assoc, Text.lower_append hends]
  exact hws.append hends.lower hus

/-! ## The warning -/

/-- The warning about repeated words. -/
def stuffingWarning : Finding :=
  .warningAt "description" "Potential keyword stuffing detected"
    "Avoid repeating the same words too frequently in descriptions"

lemma mem_keywordStuffing_iff :
    stuffingWarning ∈ keywordStuffing t d ↔
      ∃ s, d.string? "description" = some s ∧ RepeatsWord t s := by
  have hwhen (condition : Bool) :
      stuffingWarning ∈ when condition stuffingWarning ↔ condition = true := by
    cases condition <;> simp [when]
  show stuffingWarning ∈ when _ stuffingWarning ↔ _
  rw [hwhen, Option.any_eq_true]
  unfold Document.someText?
  constructor
  · rintro ⟨s, hs, hstuffed⟩
    exact ⟨s, (Option.filter_eq_some_iff.mp hs).1, isStuffed_iff.mp hstuffed⟩
  · rintro ⟨s, hs, hrepeats⟩
    refine ⟨s, Option.filter_eq_some_iff.mpr ⟨hs, ?_⟩, isStuffed_iff.mpr hrepeats⟩
    simpa using hrepeats.ne_nil

/-- No other check gives the warning. -/
lemma count_stuffingWarning_of_beginWith {row : List Finding}
    (h : BeginWith earlierOpenings row) : row.count stuffingWarning = 0 := by
  rw [List.count_eq_zero]
  intro hmem
  have hself : stuffingWarning.message.isPrefixOf stuffingWarning.message = true := by decide
  have hother := not_prefix_of_any (p := stuffingWarning.message) (by decide) (h _ hmem)
  rw [hself] at hother
  cases hother

lemma count_content :
    (content t d label).count stuffingWarning = (keywordStuffing t d).count stuffingWarning := by
  rw [content_eq_earlierContent, List.count_append,
    count_stuffingWarning_of_beginWith (beginWith_earlierContent label).earlier, Nat.zero_add]

lemma count_warnings_ofList (row : List Finding) :
    (Findings.ofList row).warnings.count stuffingWarning = row.count stuffingWarning := by
  rw [Findings.warnings_ofList]
  exact List.count_filter (decide_eq_true rfl)

/-- The check of the content warns of a description exactly if it is found to repeat a word. -/
lemma count_alone_content :
    (Checking.content t d label).alone.warnings.count stuffingWarning =
      (keywordStuffing t d).count stuffingWarning := by
  rw [(records_content t d label).alone_eq, count_warnings_ofList, count_content]

lemma mem_alone_content_iff :
    stuffingWarning ∈ (Checking.content t d label).alone.warnings ↔
      ∃ s, d.string? "description" = some s ∧ RepeatsWord t s := by
  rw [← List.count_pos_iff, count_alone_content, List.count_pos_iff, mem_keywordStuffing_iff]

lemma count_remarks {v : Validator} {row : List Finding} (h : v.remarks d label = .ok row) :
    row.count stuffingWarning = (content v.thresholds d label).count stuffingWarning := by
  obtain ⟨entry, typed, htyped, rfl⟩ := Validator.remarks_eq_ok h
  have hmismatch : (mismatch d label).count stuffingWarning = 0 := by
    rw [List.count_eq_zero]
    intro hmem
    have hmessage := forall_when (P := fun f => f.message.head? = some 'S') _ rfl _ hmem
    exact absurd hmessage (by decide)
  rw [List.count_append, List.count_append, List.count_append, List.count_append,
    List.count_append, hmismatch, count_stuffingWarning_of_beginWith beginWith_keywords,
    count_stuffingWarning_of_beginWith (beginWith_missingProperties entry),
    count_stuffingWarning_of_beginWith (beginWith_typeSpecific _).earlier,
    count_stuffingWarning_of_beginWith (beginWith_datatypes htyped).earlier]
  simp only [Nat.zero_add]

/-- A description is warned of once if some long word of it, read in small letters, occurs beyond
the limit, and otherwise not at all.  So texts of the same words in any order and with any blanks
between them, and texts that differ in the case of ASCII letters only, are judged alike, and a text
that is warned of still is when anything follows after blanks. -/
theorem stuffing_of_words (t : Thresholds) :
    (∀ (d : Document) (label : Value),
      (Checking.content t d label).alone.warnings.count stuffingWarning ≤ 1 ∧
        (stuffingWarning ∈ (Checking.content t d label).alone.warnings ↔
          ∃ s, d.string? "description" = some s ∧ RepeatsWord t s)) ∧
    (∀ (table : RequirementTable) (depth : ℕ) (sub : Submission) (d : Document) (fs : Findings),
      sub.document? depth = some d → (Validator.mk table t).validate depth sub = .ok fs →
        fs.warnings.count stuffingWarning =
          (Checking.content t d sub.label).alone.warnings.count stuffingWarning) ∧
    (∀ (d d' : Document) (label label' : Value) (s s' : Text),
      d.string? "description" = some s → d'.string? "description" = some s' →
        (Text.Rearranged s s' ∨ Text.SameButCase s s') →
          (stuffingWarning ∈ (Checking.content t d label).alone.warnings ↔
            stuffingWarning ∈ (Checking.content t d' label').alone.warnings)) ∧
    ∀ (d d' : Document) (label label' : Value) (s gap more : Text),
      d.string? "description" = some s → d'.string? "description" = some (s ++ gap ++ more) →
        gap ≠ [] → Text.IsGap gap →
          stuffingWarning ∈ (Checking.content t d label).alone.warnings →
            stuffingWarning ∈ (Checking.content t d' label').alone.warnings := by
  refine ⟨?once, ?validator, ?alike, ?longer⟩
  case once =>
    intro d label
    refine ⟨?_, mem_alone_content_iff⟩
    rw [count_alone_content]
    exact List.count_le_length.trans (length_when_le_one _ _)
  case validator =>
    intro table depth sub d fs hdocument hfs
    rw [Validator.validate_of_document? hdocument] at hfs
    obtain ⟨row, hrow, hlist⟩ := Outcome.bind_eq_ok.mp hfs
    cases hlist
    rw [count_warnings_ofList, count_remarks hrow, count_content, count_alone_content]
  case alike =>
    intro d d' label label' s s' hs hs' h
    rw [mem_alone_content_iff, mem_alone_content_iff, hs, hs']
    simp only [Option.some.injEq, exists_eq_left']
    exact repeatsWord_congr h
  case longer =>
    intro d d' label label' s gap more hs hs' hne hgap h
    obtain ⟨u, hu, hrepeats⟩ := mem_alone_content_iff.mp h
    cases hs.symm.trans hu
    exact mem_alone_content_iff.mpr ⟨_, hs', hrepeats.append hne hgap more⟩

/-- A document with nothing but a description. -/
def describedBy (s : Text) : Document := ⟨[("description", .string s)]⟩

/-- A word of five letters four times, and one of three. -/
def shoes : Text := "Buy shoes shoes shoes shoes"

/-- The text of a document that is described so. -/
def shoesPage : Text := "\x7b\"description\": \"Buy shoes shoes shoes shoes\"\x7d"

theorem shoes_stuffing :
    stuffingWarning ∈ (Checking.content {} (describedBy shoes) .null).alone.warnings ∧
      stuffingWarning ∈ (Checking.content {}
        (describedBy "\tshoes shoes\nBuy shoes  shoes ") .null).alone.warnings ∧
      stuffingWarning ∈ (Checking.content {}
        (describedBy "buy shoes shoes shoes shoes") .null).alone.warnings ∧
      stuffingWarning ∈ (Checking.content {}
        (describedBy (shoes ++ "\n" ++ "and more shoes")) .null).alone.warnings ∧
      ∃ fs, (Validator.mk RequirementTable.packaged {}).validate 985
        (.ofTexts "Article" shoesPage) = .ok fs ∧ fs.warnings.count stuffingWarning = 1 := by
  obtain ⟨-, hvalidator, halike, hlonger⟩ := stuffing_of_words {}
  have hshoes : stuffingWarning ∈
      (Checking.content {} (describedBy shoes) .null).alone.warnings := by
    decide +kernel
  refine ⟨hshoes, ?rearranged, ?small, ?longer, ?validator⟩
  case rearranged =>
    have hrearranged : Text.Rearranged shoes "\tshoes shoes\nBuy shoes  shoes " :=
      ⟨_, _, Text.madeOf_blankSeparated _, Text.madeOf_blankSeparated _, by decide +kernel⟩
    exact (halike _ _ _ _ _ _ rfl rfl (.inl hrearranged)).mp hshoes
  case small =>
    have hsame : Text.SameButCase shoes "buy shoes shoes shoes shoes" :=
      .cons (.small (by decide) rfl) (List.forall₂_same.mpr fun c _ => .refl c)
    exact (halike _ _ _ _ _ _ rfl rfl (.inr hsame)).mp hshoes
  case longer =>
    have hgap : Text.IsGap "\n" := by
      unfold Text.IsGap
      decide
    exact hlonger _ _ _ _ shoes "\n" "and more shoes" rfl rfl (List.cons_ne_nil _ _) hgap hshoes
  case validator =>
    have hcount : ((Submission.ofTexts "Article" shoesPage).document? 985).map (fun d =>
        (Checking.content {} d (.string "Article")).alone.warnings.count stuffingWarning) =
          some 1 := by
      decide +kernel
    have hok : ((Validator.mk RequirementTable.packaged {}).validate 985
        (.ofTexts "Article" shoesPage)).toOption.isSome = true := by
      decide +kernel
    obtain ⟨d, hd, hone⟩ := Option.map_eq_some_iff.mp hcount
    obtain ⟨fs, hvalidated⟩ := Outcome.exists_eq_ok_of_isSome hok
    exact ⟨fs, hvalidated, (hvalidator _ _ _ d fs hd hvalidated).trans hone⟩

end Check

end StructuredData
