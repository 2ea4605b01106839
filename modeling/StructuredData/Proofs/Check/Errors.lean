import Mathlib.Tactic.Common
import StructuredData.Proofs.Check.Requirements
import StructuredData.Proofs.Check.Rows
import StructuredData.Proofs.Outcome

/-!
# Remarks without errors

A document is valid when none of the remarks on it is an error.  This module says for each group of
checks when its remarks hold no error: the checks that only warn or note never do
(`noError_images`, `noError_rating`, `noError_content` and others), and for each of the others there
is the condition on the document.  How the remarks are put together makes no difference, so one
lemma for each way of joining rows is all that the rest needs.
-/

namespace StructuredData

namespace Check

/-- None of the findings in a row is an error. -/
def NoError (row : List Finding) : Prop := ∀ f ∈ row, f.severity ≠ .error

variable {row row' : List Finding} {d : Document}

/-! ## Joining rows -/

@[simp] lemma noError_nil : NoError [] := by simp [NoError]

@[simp] lemma noError_append : NoError (row ++ row') ↔ NoError row ∧ NoError row' := by
  unfold NoError
  simp only [List.mem_append, or_imp, forall_and]

@[simp] lemma noError_cons {f : Finding} :
    NoError (f :: row) ↔ f.severity ≠ .error ∧ NoError row := by
  unfold NoError
  simp only [List.mem_cons, forall_eq_or_imp]

@[simp] lemma noError_when (condition : Bool) (f : Finding) :
    NoError (when condition f) ↔ (condition = true → f.severity ≠ .error) := by
  cases condition <;> simp [when]

lemma noError_flatMap {α : Type} {xs : List α} {check : α → List Finding} :
    NoError (xs.flatMap check) ↔ ∀ x ∈ xs, NoError (check x) := by
  unfold NoError
  simp only [List.mem_flatMap, forall_exists_index, and_imp]
  constructor
  · intro h x hx f hf
    exact h f x hx hf
  · intro h f x hx hf
    exact h x hx f hf

/-- The elements of a value, each with its place, are its elements. -/
lemma noError_eachItemOf {v : Value} {check : ℕ → Value → List Finding} {Good : Value → Prop}
    (hcheck : ∀ i item, NoError (check i item) ↔ Good item) :
    NoError (eachItemOf v check) ↔ ∀ items, v = .array items → ∀ item ∈ items, Good item := by
  cases v with
  | array items =>
    have hitems : eachItemOf (.array items) check =
        items.zipIdx.flatMap fun item => check item.2 item.1 := rfl
    rw [hitems, noError_flatMap]
    simp only [hcheck, Value.array.injEq, forall_eq']
    constructor
    · intro h item hitem
      obtain ⟨i, hi⟩ := List.mem_iff_getElem?.mp hitem
      exact h (item, i) (List.mk_mem_zipIdx_iff_getElem?.mpr hi)
    · rintro h ⟨item, i⟩ hitem
      exact h item (List.mem_of_getElem? (List.mk_mem_zipIdx_iff_getElem?.mp hitem))
  | _ => simp [eachItemOf]

@[simp] lemma severity_error (message suggestion : Text) :
    (Finding.error message suggestion).severity = .error := rfl

@[simp] lemma severity_errorAt (path message suggestion : Text) :
    (Finding.errorAt path message suggestion).severity = .error := rfl

@[simp] lemma severity_warning (message suggestion : Text) :
    (Finding.warning message suggestion).severity = .warning := rfl

@[simp] lemma severity_warningAt (path message suggestion : Text) :
    (Finding.warningAt path message suggestion).severity = .warning := rfl

@[simp] lemma severity_note (message suggestion : Text) :
    (Finding.note message suggestion).severity = .info := rfl

end Check

/-- What is found is valid as long as no error is recorded. -/
lemma Findings.isValid_ofList {row : List Finding} :
    (Findings.ofList row).isValid = true ↔ Check.NoError row := by
  have herrors : (Findings.ofList row).errors = row.filter (·.severity = .error) :=
    Findings.ofSeverity_ofList row .error
  unfold Findings.isValid Check.NoError
  rw [herrors, List.isEmpty_iff, List.filter_eq_nil_iff]
  simp only [decide_eq_true_eq, ne_eq]

namespace Check

variable {d : Document} {t : Thresholds}

/-! ## Keywords and requirements -/

lemma noError_keywords :
    NoError (keywords d) ↔ d.has "@context" = true ∧ d.has "@type" = true := by
  unfold keywords contextKeyword
  by_cases hcontext : d.has "@context" = true <;> by_cases htype : d.has "@type" = true <;>
    simp [hcontext, htype]

lemma noError_mismatch (label : Value) : NoError (mismatch d label) := by
  simp [mismatch]

lemma noError_missingProperties (entry : Option Requirement) :
    NoError (missingProperties d entry) ↔
      ∀ r, entry = some r → ∀ p ∈ r.required, d.has p = true := by
  cases entry with
  | none => simp [missingProperties]
  | some r => simp [missingProperties, missingRequired, missingRecommended, noError_flatMap]

/-! ## Formats of common properties -/

lemma any_someText? (name : Text) (bad : Text → Bool) :
    (d.someText? name).any bad = true ↔
      ∃ t, d.get name = .string t ∧ t ≠ [] ∧ bad t = true := by
  unfold Document.someText? Document.string?
  cases d.get name with
  | string u => by_cases hu : u = [] <;> simp [Value.text?, Option.filter, hu]
  | _ => simp [Value.text?]

lemma noError_linkText (name message suggestion : Text) :
    NoError (linkText d name message suggestion) ↔
      ∀ t, d.get name = .string t → t = [] ∨ Format.url.accepts t = true := by
  unfold linkText
  rw [noError_when, any_someText?]
  simp only [severity_errorAt, ne_eq, not_true_eq_false, imp_false, Bool.not_eq_true', not_exists,
    not_and, Bool.not_eq_false]
  constructor
  · intro h t ht
    by_cases hempty : t = []
    · exact .inl hempty
    · exact .inr (h t ht hempty)
  · intro h t ht hempty
    exact (h t ht).resolve_left hempty

lemma noError_email :
    NoError (email d) ↔
      ((d.get "email").isPresent = true → (d.get "email").hasFormat .email = true) := by
  simp [email, breaks]

lemma noError_images : NoError (images d) := by
  simp [images, noError_flatMap]

lemma noError_offer (i : ℕ) (item : Value) :
    NoError (offer i item) ↔ (item.isObject = true →
      ((item.get "price").isPresent = true → (item.get "price").hasFormat .price = true) ∧
      ((item.get "priceCurrency").isPresent = true →
        (item.get "priceCurrency").hasFormat .currency = true)) := by
  by_cases hobject : item.isObject = true <;> simp [offer, breaks, hobject]

lemma noError_rating {row : List Finding} (h : rating t d = .ok row) : NoError row := by
  unfold rating at h
  split at h
  · obtain ⟨x, -, hrow⟩ := Outcome.bind_eq_ok.mp h
    cases hrow
    simp
  · cases h
    simp

lemma noError_postalCode : NoError (postalCode d) := by
  simp [postalCode]

lemma noError_contextFormat : NoError (contextFormat d) := by
  simp [contextFormat]

lemma noError_datatypes {row : List Finding} (h : datatypes t d = .ok row) :
    NoError row ↔ NoError (links d) ∧ NoError (email d) ∧ NoError (offers d) := by
  obtain ⟨ratings, hratings, hrow⟩ := Outcome.bind_eq_ok.mp h
  cases hrow
  simp [noError_images, noError_rating hratings, noError_postalCode, noError_contextFormat]

/-! ## Content -/

lemma noError_content (label : Value) : NoError (content t d label) := by
  have hlength : NoError (descriptionLength t d) := by
    unfold descriptionLength
    split
    · exact noError_nil
    · split <;> simp
  simp [content, emptyValues, nameLength, headlineLength, duplicateName, placeholders,
    veryShortDescription, keywordStuffing, noError_flatMap, hlength]

end Check

end StructuredData
