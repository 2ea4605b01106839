import StructuredData.Proofs.Page.PassedOver
import StructuredData.Proofs.Validator.Validity

/-!
# What stands behind the warnings of a page

A page is warned of a document that lacks what its type promises, and a document is held against the
requirements of its type.  Each of the two has its own list of what a type asks for.  Here the lists
are compared, for documents that go by the packaged requirements of the type that they are declared
to be: whatever a page is warned of is missing in the document as well.

What is said to be missing in a document is what its requirements ask for and the document does not
supply, and nothing else (`exists_reportsMissing_iff`).
-/

namespace StructuredData

open Check

namespace Finding

/-- The finding says that a document lacks a property that it must or should have. -/
def ReportsMissing (p : Text) (f : Finding) : Prop :=
  f.path = some p ∧ (f.message = "Missing required property: " ++ p ∨
    f.message = "Missing recommended property: " ++ p)

/-- How the message of such a finding begins. -/
def missingOpening : Text := "Missing re"

variable {p : Text} {f : Finding}

lemma not_reportsMissing (h : missingOpening.isPrefixOf f.message = false) :
    ¬ f.ReportsMissing p := by
  rintro ⟨-, hmessage | hmessage⟩
  · rw [hmessage] at h
    cases h
  · rw [hmessage] at h
    cases h

end Finding

/-! ## The remarks on a document -/

namespace Check

open Finding (not_reportsMissing)

variable {d : Document} {t : Thresholds} {p : Text} {f : Finding} {row : List Finding}

lemma HasOtherOpenings.not_reportsMissing (h : HasOtherOpenings row) :
    ∀ f ∈ row, ¬ f.ReportsMissing p := fun f hf =>
  Finding.not_reportsMissing (not_prefix_of_any (by decide) (h f hf))

/-- What is said of missing keywords goes on in another way. -/
lemma not_reportsMissing_keywords : ∀ f ∈ keywords d, ¬ f.ReportsMissing p := by
  have hcontext : ∀ f ∈ contextKeyword d, ¬ f.ReportsMissing p := by
    unfold contextKeyword
    split_ifs
    · exact forall_when true (not_reportsMissing rfl)
    · exact forall_when _ (not_reportsMissing rfl)
  exact forall_append (forall_append hcontext (forall_when _ (not_reportsMissing rfl)))
    (forall_when _ (not_reportsMissing rfl))

lemma not_reportsMissing_mismatch (label : Value) :
    ∀ f ∈ mismatch d label, ¬ f.ReportsMissing p := forall_when _ (not_reportsMissing rfl)

lemma mem_when {condition : Bool} {g : Finding} :
    f ∈ when condition g ↔ condition = true ∧ f = g := by
  cases condition <;> simp [when]

/-- A row that names each of some properties where the document lacks it reports a property missing
if it is one of them and the document lacks it. -/
lemma exists_reportsMissing_flatMap_iff {ps : List Text} {finding : Text → Finding}
    (hfinding : ∀ q, (finding q).ReportsMissing q) :
    (∃ f ∈ ps.flatMap fun q => when (!d.has q) (finding q), f.ReportsMissing p) ↔
      p ∈ ps ∧ d.has p = false := by
  simp only [List.mem_flatMap, mem_when, Bool.not_eq_true']
  constructor
  · rintro ⟨f, ⟨q, hq, hlacks, rfl⟩, hmissing⟩
    obtain rfl := Option.some.inj ((hfinding q).1.symm.trans hmissing.1)
    exact ⟨hq, hlacks⟩
  · rintro ⟨hp, hlacks⟩
    exact ⟨_, ⟨p, hp, hlacks, rfl⟩, hfinding p⟩

lemma exists_reportsMissing_missingProperties_iff {entry : Option Requirement} :
    (∃ f ∈ missingProperties d entry, f.ReportsMissing p) ↔
      ∃ r ∈ entry, (p ∈ r.required ∨ p ∈ r.recommended) ∧ d.has p = false := by
  cases entry with
  | none => simp [missingProperties]
  | some r =>
    have hrequired : (∃ f ∈ missingRequired d r, f.ReportsMissing p) ↔
        p ∈ r.required ∧ d.has p = false :=
      exists_reportsMissing_flatMap_iff fun q => ⟨rfl, .inl rfl⟩
    have hrecommended : (∃ f ∈ missingRecommended d r, f.ReportsMissing p) ↔
        p ∈ r.recommended ∧ d.has p = false :=
      exists_reportsMissing_flatMap_iff fun q => ⟨rfl, .inr rfl⟩
    simp only [missingProperties, List.mem_append, or_and_right, exists_or, hrequired,
      hrecommended, Option.mem_def, Option.some.injEq, exists_eq_left']

end Check

namespace Validator

variable {v : Validator} {depth : ℕ} {label p : Text} {row : List Finding} {fs : Findings}
  {s : Submission} {value : Value}

lemma exists_reportsMissing_of_remarks {d : Document}
    (h : v.remarks d (.string label) = .ok row) :
    (∃ f ∈ row, f.ReportsMissing p) ↔
      ∃ r ∈ v.table.entryFor d label, (p ∈ r.required ∨ p ∈ r.recommended) ∧ d.has p = false := by
  obtain ⟨typed, htyped, rfl⟩ := remarks_string_eq_ok h
  rw [← exists_reportsMissing_missingProperties_iff]
  constructor
  · rintro ⟨f, hf, hmissing⟩
    simp only [List.mem_append] at hf
    rcases hf with (((hf | hf | hf) | hf) | hf) | hf
    · exact absurd hmissing (not_reportsMissing_keywords f hf)
    · exact absurd hmissing (not_reportsMissing_mismatch _ f hf)
    · exact ⟨f, hf, hmissing⟩
    · exact absurd hmissing ((hasOtherOpenings_typeSpecific _).not_reportsMissing f hf)
    · exact absurd hmissing ((hasOtherOpenings_datatypes htyped).not_reportsMissing f hf)
    · exact absurd hmissing ((hasOtherOpenings_content _).not_reportsMissing f hf)
  · rintro ⟨f, hf, hmissing⟩
    exact ⟨f, by simp [hf], hmissing⟩

/-- What is said to be missing in a document is what the entry that it is held against asks for and
the document does not supply. -/
lemma exists_reportsMissing_iff (hlabel : s.label = .string label)
    (hparsed : s.parsed? depth = some value) (h : v.validate depth s = .ok fs) :
    (∃ f ∈ fs.toList, f.ReportsMissing p) ↔
      ∃ r ∈ v.table.entryFor (Document.ofValue value) label,
        (p ∈ r.required ∨ p ∈ r.recommended) ∧ ¬ value.Supplies p := by
  rw [validate_of_parsed?_eq_some hparsed, hlabel] at h
  obtain ⟨row, hrow, hfs⟩ := Outcome.bind_eq_ok.mp h
  cases hfs
  simp only [mem_toList_ofList, ← Document.has_ofValue, Bool.not_eq_true]
  exact exists_reportsMissing_of_remarks hrow

end Validator

/-! ## The warnings on a page -/

namespace Page

/-- The properties that a document of the type is warned about on its page. -/
def involved : KnownType → List Text
  | .article => ["headline", "description", "author", "publisher", "datePublished", "dateModified"]
  | .product => ["offers"]
  | .organization => ["address", "contactPoint"]
  | _ => []

/-- The submission, read up to a depth, is an object that is declared to be of the type, and the
packaged requirements know no other type that it names first. -/
structure IsDeclaredAs (depth : ℕ) (s : Submission) (k : KnownType) (ms : Members) : Prop where
  label : s.label = .string k.name
  parsed : s.parsed? depth = some (.object ms)
  primary : ∀ type ∈ (Document.mk ms).primaryType,
    RequirementTable.packaged.find? type = none ∨ type = k.name

variable {depth : ℕ} {s : Submission} {k : KnownType} {ms : Members} {t : Thresholds}
  {fs : Findings} {p : Text}

/-- Such a document is held against the requirements of the type. -/
lemma IsDeclaredAs.entryFor_eq (h : IsDeclaredAs depth s k ms) :
    RequirementTable.packaged.entryFor ⟨ms⟩ k.name = RequirementTable.packaged.find? k.name := by
  unfold RequirementTable.entryFor
  cases hprimary : (Document.mk ms).primaryType with
  | none => rfl
  | some type =>
    obtain hnone | rfl := h.primary type hprimary
    · rw [Option.bind_some, hnone, Option.none_or]
    · rw [Option.bind_some, Option.or_self]

lemma completeness_ne_nil_iff (h : IsDeclaredAs depth s k ms) :
    completeness depth s ≠ [] ↔ ¬ KeepsPromise (.string k.name) (.object ms) := by
  have hcontributes := contributes_completeness depth s
  rw [← h.label]
  constructor
  · intro hwarned hkeeps
    exact hwarned (hcontributes.complete ms h.parsed hkeeps)
  · intro hbreaks
    obtain ⟨f, -, hrow, -⟩ := hcontributes.incomplete ms h.parsed hbreaks
    rw [hrow]
    exact List.cons_ne_nil f []

/-- A value with all the properties involved keeps the promise of its type. -/
lemma keepsPromise_of_supplies {v : Value} (h : ∀ p ∈ involved k, v.Supplies p) :
    KeepsPromise (.string k.name) v := by
  cases k with
  | article =>
    simp only [involved, List.forall_mem_cons] at h
    obtain ⟨hheadline, hdescription, hauthor, -, hpublished, -⟩ := h
    exact (keepsPromise_article rfl).mpr
      ⟨hheadline, hdescription, .inl hauthor, .inl hpublished⟩
  | product => exact (keepsPromise_product rfl).mpr (.inl (h _ List.mem_cons_self))
  | organization =>
    simp only [involved, List.forall_mem_cons] at h
    exact (keepsPromise_organization rfl).mpr ⟨h.1, h.2.1⟩
  | _ =>
    refine ⟨?_, ?_, ?_⟩
    all_goals exact fun hlabel => absurd (Value.string.inj hlabel) (by decide)

/-- An organization that keeps the promise has all the properties involved. -/
lemma supplies_of_keepsPromise {v : Value}
    (h : KeepsPromise (.string KnownType.organization.name) v) (hp : p ∈ involved .organization) :
    v.Supplies p := by
  obtain ⟨haddress, hcontactPoint⟩ := (keepsPromise_organization rfl).mp h
  simp only [involved, List.mem_cons, List.not_mem_nil, or_false] at hp
  rcases hp with rfl | rfl
  · exact haddress
  · exact hcontactPoint

/-- The packaged requirements of a type ask for all the properties involved. -/
lemma exists_packaged (k : KnownType) :
    ∃ r ∈ RequirementTable.packaged.find? k.name,
      ∀ p ∈ involved k, p ∈ r.required ∨ p ∈ r.recommended := by
  cases k <;> exact ⟨_, rfl, by decide⟩

/-- A property involved is reported missing exactly if the document lacks it. -/
lemma exists_reportsMissing_involved_iff (h : IsDeclaredAs depth s k ms)
    (hfs : (Validator.mk RequirementTable.packaged t).validate depth s = .ok fs)
    (hp : p ∈ involved k) :
    (∃ f ∈ fs.toList, f.ReportsMissing p) ↔ ¬ (Value.object ms).Supplies p := by
  obtain ⟨r, hr, hasked⟩ := exists_packaged k
  have hentry : (Validator.mk RequirementTable.packaged t).table.entryFor
      (Document.ofValue (.object ms)) k.name = some r := h.entryFor_eq.trans hr
  rw [Validator.exists_reportsMissing_iff h.label h.parsed hfs, hentry]
  constructor
  · rintro ⟨_, -, -, hlacks⟩
    exact hlacks
  · intro hlacks
    exact ⟨r, rfl, hasked p hp, hlacks⟩

/-- On a page that goes by the packaged requirements, the warnings that documents are not complete
are those of its documents one after another.  Such a warning of a document is backed by what is
found in the document itself, if it can be read in both places: one of the properties involved is
reported missing there.  Of an organization there is the warning whenever that is so. -/
theorem completeness_backed (t : Thresholds) (ss : List Submission) :
    (∀ depth row, remarks t depth ss = .ok row →
      row.filter (·.isIncompleteness) = ss.flatMap (completeness depth)) ∧
    ∀ s ∈ ss, ∀ depth page k ms fs, IsDeclaredAs depth s k ms → IsDeclaredAs page s k ms →
      (Validator.mk RequirementTable.packaged t).validate depth s = .ok fs →
      (completeness page s ≠ [] → ∃ p ∈ involved k, ∃ f ∈ fs.toList, f.ReportsMissing p) ∧
      (k = .organization →
        (completeness page s ≠ [] ↔ ∃ p ∈ involved k, ∃ f ∈ fs.toList, f.ReportsMissing p)) := by
  refine ⟨fun depth row hrow => filter_isIncompleteness_of_remarks hrow, ?_⟩
  intro s _ depth page k ms fs hs hs' hfs
  have hbacked : completeness page s ≠ [] →
      ∃ p ∈ involved k, ∃ f ∈ fs.toList, f.ReportsMissing p := by
    intro hwarned
    by_contra hnone
    refine (completeness_ne_nil_iff hs').mp hwarned (keepsPromise_of_supplies fun p hp => ?_)
    by_contra hlacks
    exact hnone ⟨p, hp, (exists_reportsMissing_involved_iff hs hfs hp).mpr hlacks⟩
  refine ⟨hbacked, ?_⟩
  rintro rfl
  refine ⟨hbacked, fun ⟨p, hp, hmissing⟩ => ?_⟩
  have hlacks := (exists_reportsMissing_involved_iff hs hfs hp).mp hmissing
  exact (completeness_ne_nil_iff hs').mpr fun hkeeps => hlacks (supplies_of_keepsPromise hkeeps hp)

/-- An organization of which nothing is said. -/
def emptyOrganization : Submission := .ofTexts "Organization" Validator.emptyObject

theorem emptyOrganization_backed :
    (∃ row, remarks {} 984 [emptyOrganization] = .ok row ∧
      (row.filter (·.isIncompleteness)).length = 1) ∧
    ∃ fs, (Validator.mk RequirementTable.packaged {}).validate 988 emptyOrganization = .ok fs ∧
      ∃ p ∈ involved .organization, ∃ f ∈ fs.toList, f.ReportsMissing p := by
  obtain ⟨hpage, hdocuments⟩ := completeness_backed {} [emptyOrganization]
  have hwarned : completeness 984 emptyOrganization ≠ [] := by decide
  have hremarks : (remarks {} 984 [emptyOrganization]).toOption.isSome = true := by decide
  obtain ⟨row, hrow⟩ := Outcome.exists_eq_ok_of_isSome hremarks
  have hresult : ((Validator.mk RequirementTable.packaged {}).validate 988
      emptyOrganization).toOption.isSome = true := by
    decide
  obtain ⟨fs, hfs⟩ := Outcome.exists_eq_ok_of_isSome hresult
  refine ⟨⟨row, hrow, ?_⟩, fs, hfs, ?_⟩
  · rw [hpage 984 row hrow]
    decide
  · exact (hdocuments _ List.mem_cons_self 988 984 .organization [] fs ⟨rfl, rfl, nofun⟩
      ⟨rfl, rfl, nofun⟩ hfs).1 hwarned

end Page

end StructuredData
