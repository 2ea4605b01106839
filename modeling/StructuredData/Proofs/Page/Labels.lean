import Mathlib.Data.Finset.Dedup
import Mathlib.Data.Finset.Card
import StructuredData.Proofs.Agreement
import StructuredData.Proofs.Validator.Totality

/-!
# What a page says of its types

Most remarks on a page, and most advice, go by the set of types that the page declares: which of
them are there, and how many.  For a page that is handed in as texts this set is `labels`, and two
pages with the same set are alike in all of these respects.  The number of types is the size of the
set (`typeCount_page_eq`), so that a type that is declared again counts no more.
-/

namespace StructuredData

namespace Page

variable {texts texts' : List (Text × Text)} {t : Thresholds}

/-- The types that a page declares. -/
def labels (texts : List (Text × Text)) : Finset Text := (texts.map Prod.fst).toFinset

/-! ## Which types are declared -/

lemma declares_page (texts : List (Text × Text)) (name : Text) :
    declares (Submission.page texts) name = decide (name ∈ labels texts) := by
  rw [Bool.eq_iff_iff, declares, List.any_eq_true, decide_eq_true_iff, labels, List.mem_toFinset]
  simp [Submission.page, Submission.ofTexts, Value.isText, Value.text?]

lemma declares_congr (h : labels texts = labels texts') :
    declares (Submission.page texts) = declares (Submission.page texts') := by
  funext name
  rw [declares_page, declares_page, h]

lemma conflicts_congr (h : labels texts = labels texts') :
    conflicts (Submission.page texts) = conflicts (Submission.page texts') := by
  unfold conflicts
  rw [declares_congr h]

lemma foundation_congr (h : labels texts = labels texts') :
    foundation (Submission.page texts) = foundation (Submission.page texts') := by
  unfold foundation
  rw [declares_congr h]

/-! ## How many types are declared -/

lemma any_sameLabel_map_string (seen : List Text) (name : Text) :
    (seen.map Value.string).any (sameLabel (.string name)) = decide (name ∈ seen) := by
  rw [Bool.eq_iff_iff, List.any_eq_true, decide_eq_true_iff]
  simp [sameLabel]

/-- Going on from texts that are distinct, the labels that are met leave distinct texts: those from
the start and those that are met. -/
lemma foldl_distinct (names seen : List Text) (hseen : seen.Nodup) :
    ∃ distinct : List Text, distinct.Nodup ∧ (∀ n, n ∈ distinct ↔ n ∈ seen ∨ n ∈ names) ∧
      (names.map Value.string).foldl
        (fun seen l => if seen.any (sameLabel l) then seen else seen ++ [l])
        (seen.map Value.string) = distinct.map Value.string := by
  induction names generalizing seen with
  | nil => exact ⟨seen, hseen, by simp, rfl⟩
  | cons name names ih =>
    rw [List.map_cons, List.foldl_cons, any_sameLabel_map_string]
    by_cases hname : name ∈ seen
    · obtain ⟨distinct, hnodup, hmem, hfold⟩ := ih seen hseen
      refine ⟨distinct, hnodup, fun n => ?_, by simpa [hname] using hfold⟩
      rw [hmem, List.mem_cons]
      constructor
      · rintro (h | h)
        · exact .inl h
        · exact .inr (.inr h)
      · rintro (h | rfl | h)
        · exact .inl h
        · exact .inl hname
        · exact .inr h
    · have hmore : (seen ++ [name]).Nodup := by
        refine List.nodup_append.mpr ⟨hseen, List.nodup_singleton name, ?_⟩
        rintro a ha b hb rfl
        exact hname (List.mem_singleton.mp hb ▸ ha)
      obtain ⟨distinct, hnodup, hmem, hfold⟩ := ih (seen ++ [name]) hmore
      refine ⟨distinct, hnodup, fun n => ?_, by simpa [hname] using hfold⟩
      rw [hmem, List.mem_append, List.mem_singleton, List.mem_cons, or_assoc]

lemma length_distinctLabels (names : List Text) :
    (distinctLabels (names.map Value.string)).length = names.toFinset.card := by
  obtain ⟨distinct, hnodup, hmem, hfold⟩ := foldl_distinct names [] List.nodup_nil
  have hset : distinct.toFinset = names.toFinset := by
    ext n
    simp [hmem]
  unfold distinctLabels
  rw [← hset, List.toFinset_card_of_nodup hnodup]
  exact (congrArg List.length hfold).trans (List.length_map _)

/-- The number of types is that of the distinct labels. -/
lemma typeCount_page_eq (texts : List (Text × Text)) :
    typeCount (Submission.page texts) = .ok (labels texts).card := by
  have hkeys : (Submission.page texts).mapM (fun s => s.label.asKey) =
      .ok ((texts.map Prod.fst).map Value.string) := by
    rw [Outcome.mapM_eq_ok, Submission.page, List.map_map, List.forall₂_map_left_iff,
      List.forall₂_map_right_iff, List.forall₂_same]
    intro s _
    rfl
  unfold typeCount labels
  rw [hkeys, ← length_distinctLabels]
  rfl

/-- The remarks on a page: all but those on single documents go by the set of its types. -/
lemma remarks_page_eq (t : Thresholds) (depth : ℕ) (texts : List (Text × Text)) :
    remarks t depth (Submission.page texts) =
      .ok (conflicts (Submission.page texts) ++ foundation (Submission.page texts) ++
        (Submission.page texts).flatMap (completeness depth) ++
        typeCountRemark t (labels texts).card) := by
  unfold remarks
  rw [typeCount_page_eq]
  rfl

/-! ## Severities -/

open Check

lemma onlyWarns_completeness (depth : ℕ) (s : Submission) : OnlyWarns (completeness depth s) := by
  unfold completeness incomplete
  split
  · split_ifs
    · exact forall_when _ rfl
    · exact forall_when _ rfl
    · exact forall_when _ rfl
    · exact nofun
  · exact nofun

/-- A document is remarked on once at most. -/
lemma length_completeness_le_one (depth : ℕ) (s : Submission) :
    (completeness depth s).length ≤ 1 := by
  unfold completeness incomplete
  split
  · split_ifs
    · exact length_when_le_one _ _
    · exact length_when_le_one _ _
    · exact length_when_le_one _ _
    · exact Nat.zero_le _
  · exact Nat.zero_le _

/-! ## Advice -/

lemma advise_sublist {condition condition' : Bool} (h : condition = true → condition' = true)
    (advice : Text) : (advise condition advice).Sublist (advise condition' advice) := by
  cases condition
  · exact List.nil_sublist _
  · rw [h rfl]

/-- Two pages with the same types get the same advice, but for what a page with fewer documents is
advised in addition. -/
lemma recommendations_sublist (h : labels texts = labels texts')
    (hlength : texts'.length ≤ texts.length) :
    (recommendations t (Submission.page texts)).Sublist
      (recommendations t (Submission.page texts')) := by
  unfold recommendations
  rw [declares_congr h]
  refine List.Sublist.append (List.Sublist.append (List.Sublist.refl _) ?_) (List.Sublist.refl _)
  refine advise_sublist (fun hfew => ?_) _
  simp only [Submission.page, List.length_map, Bool.and_eq_true, decide_eq_true_eq] at hfew ⊢
  exact ⟨hfew.1, by omega⟩

end Page

end StructuredData
