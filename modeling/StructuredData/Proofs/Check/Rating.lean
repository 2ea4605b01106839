import StructuredData.Proofs.Check.Rows
import StructuredData.Proofs.Number.Overflow
import StructuredData.Proofs.Outcome

/-!
# When the rating check gives no answer

The value of an aggregate rating is taken as a floating-point number.  The one value for which this
fails is an integer beyond the range of those numbers; texts, however long, and floating-point
values never fail.  `datatypes_eq_error_iff` says that this is also the only way in which the checks
of common properties fail.
-/

namespace StructuredData

/-- The document has an aggregate rating whose value is an integer beyond the range of
floating-point numbers. -/
def Document.RatingOverflows (d : Document) : Prop :=
  ∃ rating n, d.get "aggregateRating" = .object rating ∧
    Value.get (.object rating) "ratingValue" = .number (.int n) ∧
    Binary64.overflowBound ≤ n.natAbs

namespace Check

variable {t : Thresholds} {d : Document} {fault : ValidationFault}

lemma ratingNumber_eq_error_iff {v : Value} :
    ratingNumber v = .error fault ↔
      fault = .ratingTooLarge ∧ ∃ n, v = .number (.int n) ∧ Binary64.overflowBound ≤ n.natAbs := by
  unfold ratingNumber
  split
  · next n =>
    simp only [Value.number.injEq, Number.int.injEq, exists_eq_left',
      ← Binary64.not_isFinite_ofInt_iff]
    split_ifs with h <;> simp [h, eq_comm]
  all_goals simp_all

lemma rating_eq_error_iff :
    rating t d = .error fault ↔ fault = .ratingTooLarge ∧ d.RatingOverflows := by
  unfold rating Document.RatingOverflows
  split
  · next rating hrating =>
    rw [Outcome.bind_pure_eq_error, ratingNumber_eq_error_iff, hrating]
    constructor
    · rintro ⟨hfault, n, hn, hle⟩
      exact ⟨hfault, rating, n, rfl, hn, hle⟩
    · rintro ⟨hfault, ms, n, hms, hn, hle⟩
      cases hms
      exact ⟨hfault, n, hn, hle⟩
  · next hrating =>
    constructor
    · intro h
      cases h
    · rintro ⟨-, ms, -, hms, -⟩
      exact absurd hms (hrating ms)

lemma datatypes_eq_error_iff :
    datatypes t d = .error fault ↔ fault = .ratingTooLarge ∧ d.RatingOverflows := by
  unfold datatypes
  rw [Outcome.bind_pure_eq_error]
  exact rating_eq_error_iff

end Check

end StructuredData
