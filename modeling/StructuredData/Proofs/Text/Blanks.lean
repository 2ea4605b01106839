import Mathlib.Data.List.Infix
import Mathlib.Data.List.TakeWhile
import Mathlib.Tactic.Common
import StructuredData.Text.Blank
import StructuredData.Text.Lowercase

/-!
# Blank texts

A text is blank if all of its code points are.  Nothing is left of it when it is trimmed, and no
blank has another small form, so that a blank text is its own small form
(`lower_eq_self_of_blank`).
-/

namespace StructuredData

namespace CodePoint

variable {c : CodePoint}

/-- No blank lies between the ends of a run of letters that have small forms. -/
lemma blankRanges_apart : ∀ b ∈ blankRanges, ∀ r ∈ smallFormRuns, b.2 < r.1 ∨ r.2.1 < b.1 := by
  decide +kernel

lemma exists_blankRange (h : c.isBlank = true) :
    ∃ b ∈ blankRanges, b.1 ≤ c.val ∧ c.val ≤ b.2 := by
  simpa [isBlank, inRanges] using h

lemma smallForm_of_isBlank (h : c.isBlank = true) : c.smallForm = c := by
  obtain ⟨b, hb, hlow, hhigh⟩ := exists_blankRange h
  have hnone : smallFormRuns.find? (fun r =>
      r.1 ≤ c.val && c.val ≤ r.2.1 && (c.val - r.1) % r.2.2.1 == 0) = none := by
    rw [List.find?_eq_none]
    intro r hr
    rcases blankRanges_apart b hb r hr with hbelow | habove
    · simp [show ¬ r.1 ≤ c.val by omega]
    · simp [show ¬ c.val ≤ r.2.1 by omega]
  unfold smallForm
  rw [hnone]

end CodePoint

namespace Text

variable {t part : Text}

/-- Nothing is left when a blank text is trimmed. -/
lemma strip_eq_nil_iff : t.strip = [] ↔ ∀ c ∈ t, c.isBlank = true := by
  unfold strip trim
  rw [List.reverse_eq_nil_iff, List.dropWhile_eq_nil_iff]
  simp only [List.mem_reverse]
  constructor
  · intro h c hc
    rw [← List.takeWhile_append_dropWhile (p := CodePoint.isBlank) (l := t), List.mem_append] at hc
    rcases hc with htake | hdrop
    · exact List.mem_takeWhile_imp htake
    · exact h c hdrop
  · intro h c hc
    exact h c ((List.dropWhile_suffix _).subset hc)

/-- A blank within a text stays what it is in small letters, whatever stands around it. -/
lemma smallFormIn_of_isBlank {c : CodePoint} (h : c.isBlank = true) (before after : Text) :
    smallFormIn before c after = [c] := by
  obtain ⟨b, hb, hlow, hhigh⟩ := CodePoint.exists_blankRange h
  have hapart : ∀ b ∈ blankRanges, (b.2 < 65 ∨ 90 < b.1) ∧ (b.2 < 0x130 ∨ 0x130 < b.1) ∧
      (b.2 < 0x3A3 ∨ 0x3A3 < b.1) := by
    decide
  obtain ⟨hcapital, hdotted, hsigma⟩ := hapart b hb
  have hupper : c.isAsciiUpper = false := by
    simp only [CodePoint.isAsciiUpper, Bool.and_eq_false_iff, decide_eq_false_iff_not]
    omega
  have hdotted : c.val ≠ 0x130 := by omega
  have hsigma : c.val ≠ 0x3A3 := by omega
  unfold smallFormIn
  rw [hupper, if_neg Bool.false_ne_true, if_neg hdotted, if_neg hsigma,
    CodePoint.smallForm_of_isBlank h, ite_self]

lemma lowerFrom_of_blank (h : ∀ c ∈ t, c.isBlank = true) (before : Text) :
    lowerFrom before t = t := by
  induction t generalizing before with
  | nil => rfl
  | cons c rest ih =>
    rw [List.forall_mem_cons] at h
    rw [lowerFrom, smallFormIn_of_isBlank h.1, ih h.2, List.singleton_append]

lemma lower_eq_self_of_blank (h : ∀ c ∈ t, c.isBlank = true) : t.lower = t :=
  lowerFrom_of_blank h []

lemma hasPart_iff_isInfix : hasPart part t = true ↔ part <:+: t := by
  induction t with
  | nil => simp [hasPart]
  | cons c rest ih =>
    rw [hasPart, Bool.or_eq_true, List.isPrefixOf_iff_prefix, ih, List.infix_cons_iff]

end Text

end StructuredData
