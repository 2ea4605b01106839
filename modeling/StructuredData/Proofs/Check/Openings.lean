import StructuredData.Proofs.Agreement
import StructuredData.Proofs.Check.Requirements
import StructuredData.Proofs.Check.Rows

/-!
# How messages begin

A finding is told apart from others by the beginning of its message.  All checks but one begin their
messages in one of a few ways (`openings`); the exception is the remark on a document whose types do
not include the declared one.  So a message that begins in no such way is the message of no
other check (`ne_of_hasOpening`, `not_prefix_of_hasOpening`).  That something is missing is said by
the checks of keywords and requirements alone; all others begin in another way (`otherOpenings`).
Of repeated words only the last check speaks (`earlierOpenings`).
-/

namespace StructuredData

namespace Check

/-- How the messages of the checks begin, but for the message on the declared type. -/
def openings : List Text :=
  ["Missing ", "Non-standard ", "Headline ", "Author ", "Invalid date", "Invalid start",
    "Invalid end", "Product offers ", "Invalid image ", "Invalid logo ", "Invalid phone ",
    "Breadcrumb item ", "FAQ ", "HowTo step ", "Review rating ", "Address ", "Invalid URL ",
    "Invalid email ", "Image URL ", "Invalid price ", "Invalid currency ", "Rating value ",
    "Best rating ", "Postal code ", "Empty value ", "Description ", "Name ", "Generic placeholder ",
    "Potential keyword "]

/-- The message of a finding begins as those of the checks do. -/
def hasOpening (f : Finding) : Bool := openings.any fun o => o.isPrefixOf f.message

/-- All findings in a row have messages that begin as those of the checks do. -/
def HasOpenings (row : List Finding) : Prop := ∀ f ∈ row, hasOpening f = true

/-- A text that neither begins with an opening nor is the beginning of one. -/
def isForeign (p : Text) : Bool := openings.all fun o => !o.isPrefixOf p && !p.isPrefixOf o

/-- How the messages begin of the checks that look for nothing missing. -/
def otherOpenings : List Text := openings.tail

/-- All findings in a row have messages that begin as those of the checks that look for nothing
missing. -/
def HasOtherOpenings (row : List Finding) : Prop :=
  ∀ f ∈ row, (otherOpenings.any fun o => o.isPrefixOf f.message) = true

/-- How the messages begin of all checks but the one that looks for repeated words. -/
def earlierOpenings : List Text := openings.dropLast

/-- How the messages begin of the checks that look for nothing missing and for no repeated words. -/
def plainOpenings : List Text := otherOpenings.dropLast

/-- All findings in a row have messages that begin in one of some ways. -/
def BeginWith (os : List Text) (row : List Finding) : Prop :=
  ∀ f ∈ row, (os.any fun o => o.isPrefixOf f.message) = true

variable {f : Finding} {p : Text} {d : Document} {t : Thresholds} {row : List Finding}
  {os os' : List Text}

lemma BeginWith.mono (h : BeginWith os row) (hos : os ⊆ os') : BeginWith os' row := by
  intro f hf
  obtain ⟨o, ho, hopening⟩ := List.any_eq_true.mp (h f hf)
  exact List.any_eq_true.mpr ⟨o, hos ho, hopening⟩

lemma BeginWith.hasOtherOpenings (h : BeginWith plainOpenings row) : HasOtherOpenings row :=
  h.mono (List.dropLast_subset _)

lemma BeginWith.earlier (h : BeginWith plainOpenings row) : BeginWith earlierOpenings row := by
  apply h.mono
  rw [plainOpenings, otherOpenings, ← List.tail_dropLast]
  exact (List.tail_sublist _).subset

lemma BeginWith.hasOpenings (h : BeginWith earlierOpenings row) : HasOpenings row :=
  h.mono (List.dropLast_subset _)

lemma HasOtherOpenings.hasOpenings (h : HasOtherOpenings row) : HasOpenings row :=
  BeginWith.mono h (List.tail_sublist _).subset

/-- A message that begins as one of some texts does not begin as a text that is comparable with none
of them. -/
lemma not_prefix_of_any {os : List Text}
    (hp : (os.all fun o => !o.isPrefixOf p && !p.isPrefixOf o) = true)
    (hf : (os.any fun o => o.isPrefixOf f.message) = true) :
    p.isPrefixOf f.message = false := by
  obtain ⟨o, ho, hopening⟩ := List.any_eq_true.mp hf
  have hforeign := List.all_eq_true.mp hp o ho
  simp only [Bool.and_eq_true, Bool.not_eq_true'] at hforeign
  rw [Bool.eq_false_iff]
  intro hinit
  rw [List.isPrefixOf_iff_prefix] at hopening hinit
  -- two beginnings of one message are comparable
  rcases List.prefix_or_prefix_of_prefix hopening hinit with h | h
  · rw [List.isPrefixOf_iff_prefix.mpr h] at hforeign
    exact absurd hforeign.1 (by decide)
  · rw [List.isPrefixOf_iff_prefix.mpr h] at hforeign
    exact absurd hforeign.2 (by decide)

lemma not_prefix_of_hasOpening (hp : isForeign p = true) (hf : hasOpening f = true) :
    p.isPrefixOf f.message = false := not_prefix_of_any hp hf

lemma ne_of_hasOpening (hp : isForeign p = true) (hf : hasOpening f = true) : f.message ≠ p := by
  rintro rfl
  have hself := not_prefix_of_hasOpening hp hf
  rw [List.isPrefixOf_iff_prefix.mpr List.prefix_rfl] at hself
  cases hself

/-! ## The groups of checks -/

lemma beginWith_keywords : BeginWith earlierOpenings (keywords d) := by
  have hcontext : BeginWith earlierOpenings (contextKeyword d) := by
    unfold contextKeyword
    split_ifs
    · exact forall_when true rfl
    · exact forall_when _ rfl
  exact forall_append (forall_append hcontext (forall_when _ rfl)) (forall_when _ rfl)

lemma hasOpenings_keywords : HasOpenings (keywords d) := beginWith_keywords.hasOpenings

lemma beginWith_missingProperties (entry : Option Requirement) :
    BeginWith earlierOpenings (missingProperties d entry) := by
  cases entry with
  | none => exact nofun
  | some r =>
    have hrequired : BeginWith earlierOpenings (missingRequired d r) :=
      forall_flatMap fun _ => forall_when _ rfl
    have hrecommended : BeginWith earlierOpenings (missingRecommended d r) :=
      forall_flatMap fun _ => forall_when _ rfl
    exact forall_append hrequired hrecommended

lemma hasOpenings_missingProperties (entry : Option Requirement) :
    HasOpenings (missingProperties d entry) := (beginWith_missingProperties entry).hasOpenings

lemma beginWith_typeSpecific (label : Value) :
    BeginWith plainOpenings (typeSpecific t d label) := by
  have harticle : BeginWith plainOpenings (article t d) := by
    refine forall_append (forall_append (forall_append ?_ ?_) ?_) ?_
    all_goals exact forall_when _ rfl
  have hproduct : BeginWith plainOpenings (product d) :=
    forall_append (forall_when _ rfl) (forall_when _ rfl)
  have horganization : BeginWith plainOpenings (organization d) :=
    forall_append (forall_when _ rfl) (forall_when _ rfl)
  have hevent : BeginWith plainOpenings (event d) :=
    forall_append (forall_when _ rfl) (forall_when _ rfl)
  have hfaqPage : BeginWith plainOpenings (faqPage d) := forall_eachItemOf _ fun _ _ =>
    forall_append (forall_when _ rfl) (forall_when _ rfl)
  unfold typeSpecific
  split
  · exact harticle
  · exact hproduct
  · exact horganization
  · exact hevent
  · exact forall_eachItemOf _ fun _ _ => forall_when _ rfl
  · exact hfaqPage
  · exact forall_eachItemOf _ fun _ _ => forall_when _ rfl
  · exact forall_when _ rfl
  · exact forall_when _ rfl
  · exact nofun

lemma hasOtherOpenings_typeSpecific (label : Value) :
    HasOtherOpenings (typeSpecific t d label) := (beginWith_typeSpecific label).hasOtherOpenings

lemma hasOpenings_typeSpecific (label : Value) : HasOpenings (typeSpecific t d label) :=
  (hasOtherOpenings_typeSpecific label).hasOpenings

lemma beginWith_datatypes (h : datatypes t d = .ok row) : BeginWith plainOpenings row := by
  obtain ⟨ratings, hratings, hrow⟩ := Outcome.bind_eq_ok.mp h
  cases hrow
  have hrating : BeginWith plainOpenings ratings := by
    unfold rating at hratings
    split at hratings
    · obtain ⟨x, -, hrow⟩ := Outcome.bind_eq_ok.mp hratings
      cases hrow
      exact forall_append (forall_when _ rfl) (forall_when _ rfl)
    · cases hratings
      exact nofun
  have hlinks : BeginWith plainOpenings (links d) := forall_flatMap fun _ => forall_when _ rfl
  have himages : BeginWith plainOpenings (images d) := forall_flatMap fun _ => forall_when _ rfl
  have hoffers : BeginWith plainOpenings (offers d) := forall_eachItemOf _ fun _ _ =>
    forall_append (forall_append (forall_when _ rfl) (forall_when _ rfl)) (forall_when _ rfl)
  have hstart := forall_append hlinks (forall_when _ rfl : BeginWith plainOpenings (email d))
  have hmore := forall_append (forall_append (forall_append hstart himages) hoffers) hrating
  exact forall_append (forall_append hmore (forall_when _ rfl)) (forall_when _ rfl)

lemma hasOtherOpenings_datatypes (h : datatypes t d = .ok row) : HasOtherOpenings row :=
  (beginWith_datatypes h).hasOtherOpenings

lemma hasOpenings_datatypes (h : datatypes t d = .ok row) : HasOpenings row :=
  (hasOtherOpenings_datatypes h).hasOpenings

/-- The remarks on the content of a document but for the one on repeated words. -/
def earlierContent (t : Thresholds) (d : Document) (label : Value) : List Finding :=
  emptyValues d ++ descriptionLength t d ++ nameLength t d ++ headlineLength t d label ++
    duplicateName d ++ placeholders d ++ veryShortDescription t d

lemma content_eq_earlierContent (t : Thresholds) (d : Document) (label : Value) :
    content t d label = earlierContent t d label ++ keywordStuffing t d := rfl

lemma beginWith_earlierContent (label : Value) :
    BeginWith plainOpenings (earlierContent t d label) := by
  have hlength : BeginWith plainOpenings (descriptionLength t d) := by
    unfold descriptionLength
    split
    · exact nofun
    · split_ifs
      · exact forall_when true rfl
      · exact forall_when _ rfl
  have hempty : BeginWith plainOpenings (emptyValues d) :=
    forall_flatMap fun _ => forall_when _ rfl
  have hplaceholders : BeginWith plainOpenings (placeholders d) :=
    forall_flatMap fun _ => forall_when _ rfl
  unfold earlierContent
  refine forall_append (forall_append ?_ hplaceholders) (forall_when _ rfl)
  refine forall_append (forall_append (forall_append (forall_append hempty hlength) ?_) ?_) ?_
  all_goals exact forall_when _ rfl

lemma hasOtherOpenings_content (label : Value) : HasOtherOpenings (content t d label) :=
  forall_append (beginWith_earlierContent label).hasOtherOpenings (forall_when _ rfl)

lemma hasOpenings_content (label : Value) : HasOpenings (content t d label) :=
  (hasOtherOpenings_content label).hasOpenings

end Check

end StructuredData
