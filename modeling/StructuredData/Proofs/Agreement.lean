import Mathlib.Tactic.Common
import StructuredData.Proofs.Check.Rows
import StructuredData.Proofs.Outcome

/-!
# Two validations side by side

Some results compare two validations: of two documents, of one document under two labels, or under
two sets of thresholds.  Two outcomes are alike (`Outcome.Alike`) when both are results, and related
ones, or both are the same fault.  Two lots of findings agree (`Findings.Agree`) when they have the
same errors and the same notes in the same order, while their warnings compare in a way that is left
open.

The way in which warnings compare is a `WarningComparison`: it holds of equal rows and may be put
together from parts, so that rows of findings can be compared one check at a time
(`Check.RowsAgree.append`).
-/

namespace StructuredData

/-! ## Outcomes -/

namespace Outcome

variable {ε α α' β β' : Type} {R S : α → α' → Prop} {T : β → β' → Prop}

/-- Both operations have results, and these are related, or both end with the same fault. -/
inductive Alike (R : α → α' → Prop) : Except ε α → Except ε α' → Prop
  | ok {a : α} {a' : α'} (h : R a a') : Alike R (.ok a) (.ok a')
  | error (e : ε) : Alike R (.error e) (.error e)

namespace Alike

variable {r : Except ε α} {r' : Except ε α'}

lemma of_eq {R : α → α → Prop} (hrefl : ∀ a, R a a) {r r' : Except ε α} (h : r = r') :
    Alike R r r' := by
  subst h
  cases r with
  | ok a => exact .ok (hrefl a)
  | error e => exact .error e

lemma imp (h : Alike R r r') (himp : ∀ a a', R a a' → S a a') : Alike S r r' := by
  cases h with
  | ok hR => exact .ok (himp _ _ hR)
  | error e => exact .error e

lemma bind (h : Alike R r r') {f : α → Except ε β} {f' : α' → Except ε β'}
    (hf : ∀ a a', R a a' → Alike T (f a) (f' a')) : Alike T (r >>= f) (r' >>= f') := by
  cases h with
  | ok hR => exact hf _ _ hR
  | error e => exact .error e

lemma mapM {xs : List β} {xs' : List β'} {f : β → Except ε α} {f' : β' → Except ε α'}
    (h : List.Forall₂ (fun x x' => Alike R (f x) (f' x')) xs xs') :
    Alike (List.Forall₂ R) (xs.mapM f) (xs'.mapM f') := by
  induction h with
  | nil => exact .ok .nil
  | cons hx _ ih =>
    rw [List.mapM_cons, List.mapM_cons]
    exact hx.bind fun _ _ ha => ih.bind fun _ _ has => .ok (.cons ha has)

lemma exists_of_ok {a : α} (h : Alike R (.ok a) r') : ∃ a', r' = .ok a' ∧ R a a' := by
  cases h with
  | ok hR => exact ⟨_, rfl, hR⟩

end Alike

end Outcome

/-! ## Findings -/

namespace Findings

lemma errors_ofList (row : List Finding) :
    (ofList row).errors = row.filter (·.severity = .error) := ofSeverity_ofList row .error

lemma warnings_ofList (row : List Finding) :
    (ofList row).warnings = row.filter (·.severity = .warning) := ofSeverity_ofList row .warning

lemma info_ofList (row : List Finding) :
    (ofList row).info = row.filter (·.severity = .info) := ofSeverity_ofList row .info

end Findings

/-- A way in which two rows of warnings can compare: equal rows compare so, and rows that are put
together do if their parts do. -/
structure WarningComparison where
  rel : List Finding → List Finding → Prop
  refl : ∀ ws, rel ws ws
  append : ∀ {ws ws' us us'}, rel ws ws' → rel us us' → rel (ws ++ us) (ws' ++ us')

/-- The errors are the same and the notes are the same, and the warnings compare in the given
way. -/
structure Findings.Agree (W : WarningComparison) (fs fs' : Findings) : Prop where
  errors : fs.errors = fs'.errors
  info : fs.info = fs'.info
  warnings : W.rel fs.warnings fs'.warnings

namespace Check

variable {W : WarningComparison} {row row' more more' : List Finding}

/-! ## What holds of each finding of a row -/

section Each

variable {P : Finding → Prop}

lemma forall_append (h : ∀ f ∈ row, P f) (hmore : ∀ f ∈ more, P f) : ∀ f ∈ row ++ more, P f :=
  List.forall_mem_append.mpr ⟨h, hmore⟩

lemma forall_when (condition : Bool) {f : Finding} (hf : P f) : ∀ g ∈ when condition f, P g := by
  intro g hg
  cases condition
  · cases hg
  · rw [List.mem_singleton.mp hg]
    exact hf

lemma forall_flatMap {α : Type} {xs : List α} {check : α → List Finding}
    (h : ∀ x, ∀ f ∈ check x, P f) : ∀ f ∈ xs.flatMap check, P f :=
  List.forall_mem_flatMap.mpr fun x _ => h x

lemma forall_eachItemOf {check : ℕ → Value → List Finding} (v : Value)
    (h : ∀ i item, ∀ f ∈ check i item, P f) : ∀ f ∈ eachItemOf v check, P f := by
  unfold eachItemOf
  split
  · exact forall_flatMap fun item => h item.2 item.1
  · exact nofun

end Each

lemma length_when_le_one (condition : Bool) (f : Finding) : (when condition f).length ≤ 1 := by
  cases condition
  · exact Nat.zero_le 1
  · exact Nat.le_refl 1

/-! ## Rows that agree -/

/-- The findings of two rows agree. -/
def RowsAgree (W : WarningComparison) (row row' : List Finding) : Prop :=
  (Findings.ofList row).Agree W (Findings.ofList row')

lemma rowsAgree_iff :
    RowsAgree W row row' ↔
      row.filter (·.severity = .error) = row'.filter (·.severity = .error) ∧
      row.filter (·.severity = .info) = row'.filter (·.severity = .info) ∧
      W.rel (row.filter (·.severity = .warning)) (row'.filter (·.severity = .warning)) := by
  simp only [← Findings.errors_ofList, ← Findings.info_ofList, ← Findings.warnings_ofList]
  exact ⟨fun h => ⟨h.errors, h.info, h.warnings⟩, fun ⟨he, hi, hw⟩ => ⟨he, hi, hw⟩⟩

/-- All findings of a row are warnings. -/
def OnlyWarns (row : List Finding) : Prop := ∀ f ∈ row, f.severity = .warning

lemma OnlyWarns.filter_eq (h : OnlyWarns row) (s : Severity) :
    row.filter (·.severity = s) = if s = .warning then row else [] := by
  split_ifs with hs
  · rw [List.filter_eq_self]
    intro f hf
    simp [h f hf, hs]
  · rw [List.filter_eq_nil_iff]
    intro f hf
    simp [h f hf, Ne.symm hs]

namespace RowsAgree

lemma refl (row : List Finding) : RowsAgree W row row := ⟨rfl, rfl, W.refl _⟩

lemma of_eq (h : row = row') : RowsAgree W row row' := h ▸ refl row

lemma append (h : RowsAgree W row row') (hmore : RowsAgree W more more') :
    RowsAgree W (row ++ more) (row' ++ more') := by
  obtain ⟨herrors, hinfo, hwarnings⟩ := rowsAgree_iff.mp h
  obtain ⟨hmoreErrors, hmoreInfo, hmoreWarnings⟩ := rowsAgree_iff.mp hmore
  simp only [rowsAgree_iff, List.filter_append]
  refine ⟨?_, ?_, W.append hwarnings hmoreWarnings⟩
  · rw [herrors, hmoreErrors]
  · rw [hinfo, hmoreInfo]

/-- Rows of warnings agree as soon as they compare. -/
lemma of_onlyWarns (h : OnlyWarns row) (h' : OnlyWarns row') (hrel : W.rel row row') :
    RowsAgree W row row' := by
  rw [rowsAgree_iff]
  simpa [h.filter_eq, h'.filter_eq] using hrel

end RowsAgree

end Check

end StructuredData
