import Mathlib.Data.List.Infix
import StructuredData.Text.Basic

/-!
# How often a part occurs in a text

Occurrences of a part can be counted piece by piece only where none of them runs from one piece into
the next.  A text is closed for a part if no occurrence that begins in it can end beyond it; closed
texts can be put together, and their occurrences add up (`occurrences_append`).
-/

namespace StructuredData

namespace Text

/-- The number of places of a text where a part begins. -/
def occurrences (part : Text) : Text → Nat
  | [] => 0
  | c :: rest => (if part.isPrefixOf (c :: rest) then 1 else 0) + occurrences part rest

/-- No end of the text is the beginning of a part that goes on beyond the text. -/
def isClosedFor (part : Text) : Text → Bool
  | [] => true
  | c :: rest =>
    (part.isPrefixOf (c :: rest) || !(c :: rest).isPrefixOf part) && isClosedFor part rest

variable {part t u : Text}

/-- Where a text is the part or differs from it, what follows the text does not matter. -/
private lemma isPrefixOf_append (h : (part.isPrefixOf t || !t.isPrefixOf part) = true) :
    part.isPrefixOf (t ++ u) = part.isPrefixOf t := by
  rw [Bool.eq_iff_iff, List.isPrefixOf_iff_prefix, List.isPrefixOf_iff_prefix]
  refine ⟨fun hpart => ?_, fun hpart => hpart.trans (List.prefix_append t u)⟩
  rcases List.prefix_or_prefix_of_prefix hpart (List.prefix_append t u) with hshort | hlong
  · exact hshort
  · simpa [List.isPrefixOf_iff_prefix.mpr hlong] using h

lemma isClosedFor_append (ht : isClosedFor part t = true) (hu : isClosedFor part u = true) :
    isClosedFor part (t ++ u) = true := by
  induction t with
  | nil => exact hu
  | cons c rest ih =>
    rw [isClosedFor, Bool.and_eq_true] at ht
    rw [List.cons_append, isClosedFor, Bool.and_eq_true]
    refine ⟨?_, ih ht.2⟩
    rw [← List.cons_append, isPrefixOf_append ht.1]
    rcases Bool.or_eq_true_iff.mp ht.1 with hpart | hother
    · rw [hpart, Bool.true_or]
    · rw [Bool.not_eq_true', Bool.eq_false_iff] at hother
      rw [Bool.or_eq_true_iff, Bool.not_eq_true', Bool.eq_false_iff]
      refine .inr fun hlong => hother ?_
      rw [List.isPrefixOf_iff_prefix] at hlong ⊢
      exact (List.prefix_append _ u).trans hlong

theorem occurrences_append (ht : isClosedFor part t = true) (u : Text) :
    occurrences part (t ++ u) = occurrences part t + occurrences part u := by
  induction t with
  | nil => simp [occurrences]
  | cons c rest ih =>
    rw [isClosedFor, Bool.and_eq_true] at ht
    rw [List.cons_append, occurrences, occurrences, ih ht.2, ← List.cons_append,
      isPrefixOf_append ht.1, Nat.add_assoc]

/-! ## Texts without the first sign of the part -/

lemma isClosedFor_of_not_mem {c : CodePoint} (h : c ∉ t) : isClosedFor (c :: part) t = true := by
  induction t with
  | nil => rfl
  | cons d rest ih =>
    rw [List.mem_cons, not_or] at h
    simp [isClosedFor, List.isPrefixOf, h.1, Ne.symm h.1, ih h.2]

lemma occurrences_of_not_mem {c : CodePoint} (h : c ∉ t) : occurrences (c :: part) t = 0 := by
  induction t with
  | nil => rfl
  | cons d rest ih =>
    rw [List.mem_cons, not_or] at h
    simp [occurrences, List.isPrefixOf, h.1, ih h.2]

end Text

end StructuredData
