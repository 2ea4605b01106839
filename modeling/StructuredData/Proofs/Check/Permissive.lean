import StructuredData.Proofs.Agreement
import StructuredData.Proofs.Check.Rows
import StructuredData.Proofs.Number.Order

/-!
# Checks under other limits

The checks that apply limits only warn, and so two thresholds give the same errors and the same
notes.  Thresholds that are at least as permissive give no more warnings, check by check: a text
that is too long, a rating that is out of range or a word that is repeated too often was so before.
A description that is no longer too short may become too long, which is one warning for another.
-/

namespace StructuredData

/-- Every document may be as long, as short, as repetitive and be rated as far from the middle as
before, and the best rating has the same value.  The rating limits are comparable, which excludes
that one of them is not a number. -/
structure Thresholds.AtLeastAsPermissive (t' t : Thresholds) : Prop where
  nameMaxLength : t.nameMaxLength ≤ t'.nameMaxLength
  headlineMaxLength : t.headlineMaxLength ≤ t'.headlineMaxLength
  descriptionMaxLength : t.descriptionMaxLength ≤ t'.descriptionMaxLength
  descriptionMinLength : t'.descriptionMinLength ≤ t.descriptionMinLength
  descriptionVeryShortLength : t'.descriptionVeryShortLength ≤ t.descriptionVeryShortLength
  keywordMinLength : t.keywordMinLength ≤ t'.keywordMinLength
  keywordRepeatLimit : t.keywordRepeatLimit ≤ t'.keywordRepeatLimit
  ratingMin : t'.ratingMin.le t.ratingMin = true
  ratingMax : t.ratingMax.le t'.ratingMax = true
  bestRating : t.bestRating.same t'.bestRating = true

/-- The second row of warnings is no longer than the first, provided that the thresholds it was made
under are at least as permissive. -/
def WarningComparison.underLimits (t t' : Thresholds) : WarningComparison where
  rel ws ws' := t'.AtLeastAsPermissive t → ws'.length ≤ ws.length
  refl _ _ := le_rfl
  append hws hus hpermissive := by
    rw [List.length_append, List.length_append]
    exact Nat.add_le_add (hws hpermissive) (hus hpermissive)

namespace Check

open WarningComparison (underLimits)

variable {t t' : Thresholds} {d : Document}

lemma length_when_le_length_when {condition condition' : Bool} {f f' : Finding}
    (h : condition' = true → condition = true) :
    (when condition' f').length ≤ (when condition f).length := by
  cases condition' with
  | false => exact Nat.zero_le _
  | true =>
    rw [h rfl]
    exact le_rfl

lemma when_underLimits {condition condition' : Bool} {f f' : Finding} (hf : f.severity = .warning)
    (hf' : f'.severity = .warning)
    (h : t'.AtLeastAsPermissive t → condition' = true → condition = true) :
    RowsAgree (underLimits t t') (when condition f) (when condition' f') :=
  RowsAgree.of_onlyWarns (forall_when _ hf) (forall_when _ hf') fun hpermissive =>
    length_when_le_length_when (h hpermissive)

/-! ## Lengths -/

lemma isLongerThan_anti {name : Text} {limit limit' : ℤ} (hle : limit ≤ limit')
    (h : isLongerThan d name limit' = true) : isLongerThan d name limit = true := by
  obtain ⟨s, hs, hlong⟩ := (Option.any_eq_true _ _).mp h
  have hlong := of_decide_eq_true hlong
  exact (Option.any_eq_true _ _).mpr ⟨s, hs, decide_eq_true (by omega)⟩

lemma article_underLimits (t t' : Thresholds) (d : Document) :
    RowsAgree (underLimits t t') (article t d) (article t' d) := by
  refine RowsAgree.append (RowsAgree.append (RowsAgree.append ?_ (.refl _)) (.refl _)) (.refl _)
  exact when_underLimits rfl rfl fun h => isLongerThan_anti h.headlineMaxLength

lemma typeSpecific_underLimits (t t' : Thresholds) (d : Document) (label : Value) :
    RowsAgree (underLimits t t') (typeSpecific t d label) (typeSpecific t' d label) := by
  unfold typeSpecific
  split
  · exact article_underLimits t t' d
  all_goals exact .refl _

lemma nameLength_underLimits (t t' : Thresholds) (d : Document) :
    RowsAgree (underLimits t t') (nameLength t d) (nameLength t' d) :=
  when_underLimits rfl rfl fun h => isLongerThan_anti h.nameMaxLength

lemma headlineLength_underLimits (t t' : Thresholds) (d : Document) (label : Value) :
    RowsAgree (underLimits t t') (headlineLength t d label) (headlineLength t' d label) := by
  refine when_underLimits rfl rfl fun hpermissive h => ?_
  obtain ⟨hlabel, hlong⟩ := (Bool.and_eq_true _ _).mp h
  exact (Bool.and_eq_true _ _).mpr
    ⟨hlabel, isLongerThan_anti hpermissive.headlineMaxLength hlong⟩

lemma veryShortDescription_underLimits (t t' : Thresholds) (d : Document) :
    RowsAgree (underLimits t t') (veryShortDescription t d) (veryShortDescription t' d) := by
  refine when_underLimits rfl rfl fun hpermissive h => ?_
  obtain ⟨s, hs, hshort⟩ := (Option.any_eq_true _ _).mp h
  have hshort := of_decide_eq_true hshort
  have hlimit := hpermissive.descriptionVeryShortLength
  exact (Option.any_eq_true _ _).mpr ⟨s, hs, decide_eq_true (by omega)⟩

lemma onlyWarns_descriptionLength (t : Thresholds) (d : Document) :
    OnlyWarns (descriptionLength t d) := by
  unfold descriptionLength
  split
  · exact nofun
  · split_ifs
    · exact forall_when true rfl
    · exact forall_when _ rfl

/-- A description that is no longer too short may be too long by now: one warning takes the place of
the other. -/
lemma descriptionLength_underLimits (t t' : Thresholds) (d : Document) :
    RowsAgree (underLimits t t') (descriptionLength t d) (descriptionLength t' d) := by
  refine RowsAgree.of_onlyWarns (onlyWarns_descriptionLength t d) (onlyWarns_descriptionLength t' d)
    fun hpermissive => ?_
  have hmin := hpermissive.descriptionMinLength
  have hmax := hpermissive.descriptionMaxLength
  unfold descriptionLength
  cases d.someText? "description" with
  | none => exact le_rfl
  | some s =>
    dsimp only
    by_cases hshort : (s.length : ℤ) < t.descriptionMinLength
    · rw [if_pos hshort]
      split_ifs
      · exact le_rfl
      · exact length_when_le_one _ _
    · have hshort' : ¬ (s.length : ℤ) < t'.descriptionMinLength := by omega
      rw [if_neg hshort, if_neg hshort']
      refine length_when_le_length_when fun hlong => ?_
      have hlong := of_decide_eq_true hlong
      exact decide_eq_true (by omega)

/-! ## Words -/

/-- Dropping short words does not change how often a long one occurs. -/
lemma count_longWords {limit : ℤ} {s w : Text} (h : w ∈ longWords limit s) :
    (longWords limit s).count w = (Text.blankSeparated s.lower).count w :=
  List.count_filter (List.mem_filter.mp h).2

lemma mem_longWords_anti {limit limit' : ℤ} {s w : Text} (hle : limit ≤ limit')
    (h : w ∈ longWords limit' s) : w ∈ longWords limit s := by
  obtain ⟨hw, hlong⟩ := List.mem_filter.mp h
  have hlong := of_decide_eq_true hlong
  exact List.mem_filter.mpr ⟨hw, decide_eq_true (by omega)⟩

lemma isStuffed_anti (hpermissive : t'.AtLeastAsPermissive t) {s : Text}
    (h : isStuffed t' s = true) : isStuffed t s = true := by
  obtain ⟨w, hw, hoften⟩ := List.any_eq_true.mp h
  have hw' := mem_longWords_anti hpermissive.keywordMinLength hw
  have hoften := of_decide_eq_true hoften
  have hlimit := hpermissive.keywordRepeatLimit
  rw [count_longWords hw, ← count_longWords hw'] at hoften
  exact List.any_eq_true.mpr ⟨w, hw', decide_eq_true (by omega)⟩

lemma keywordStuffing_underLimits (t t' : Thresholds) (d : Document) :
    RowsAgree (underLimits t t') (keywordStuffing t d) (keywordStuffing t' d) := by
  refine when_underLimits rfl rfl fun hpermissive h => ?_
  obtain ⟨s, hs, hstuffed⟩ := (Option.any_eq_true _ _).mp h
  exact (Option.any_eq_true _ _).mpr ⟨s, hs, isStuffed_anti hpermissive hstuffed⟩

/-! ## Ratings -/

lemma isOddRating_anti (hpermissive : t'.AtLeastAsPermissive t) {v : Value} {x : Option Binary64}
    (h : isOddRating t' v x = true) : isOddRating t v x = true := by
  obtain ⟨hpresent, hodd⟩ := (Bool.and_eq_true _ _).mp h
  obtain ⟨y, hy, hout⟩ := (Option.any_eq_true _ _).mp hodd
  refine (Bool.and_eq_true _ _).mpr ⟨hpresent, (Option.any_eq_true _ _).mpr ⟨y, hy, ?_⟩⟩
  -- a number within the limits is within the wider ones
  rw [Bool.not_eq_true'] at hout ⊢
  rw [Bool.eq_false_iff] at hout ⊢
  intro hin
  obtain ⟨hmin, hmax⟩ := (Bool.and_eq_true _ _).mp hin
  exact hout ((Bool.and_eq_true _ _).mpr ⟨Number.le_trans hpermissive.ratingMin hmin,
    Number.le_trans hmax hpermissive.ratingMax⟩)

lemma isOddBest_eq (hpermissive : t'.AtLeastAsPermissive t) (v : Value) :
    isOddBest t' v = isOddBest t v := by
  unfold isOddBest
  split
  · rw [Number.same_congr_right hpermissive.bestRating]
  · rfl

lemma rating_underLimits (t t' : Thresholds) (d : Document) :
    Outcome.Alike (RowsAgree (underLimits t t')) (rating t d) (rating t' d) := by
  unfold rating
  split
  · refine (Outcome.Alike.of_eq (R := Eq) (fun _ => rfl) rfl).bind ?_
    rintro x _ rfl
    refine .ok (RowsAgree.append (when_underLimits rfl rfl ?_) (when_underLimits rfl rfl ?_))
    · exact fun hpermissive => isOddRating_anti hpermissive
    · intro hpermissive h
      rw [← isOddBest_eq hpermissive]
      exact h
  · exact .ok (.refl _)

lemma datatypes_underLimits (t t' : Thresholds) (d : Document) :
    Outcome.Alike (RowsAgree (underLimits t t')) (datatypes t d) (datatypes t' d) := by
  unfold datatypes
  refine (rating_underLimits t t' d).bind fun r r' hr => ?_
  exact .ok ((((RowsAgree.refl _).append hr).append (.refl _)).append (.refl _))

end Check

end StructuredData
