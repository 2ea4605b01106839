import Mathlib.Data.List.Forall2
import Mathlib.Data.List.Nodup
import Mathlib.Data.List.Range
import StructuredData.Proofs.Check.Rows
import StructuredData.Proofs.Json.Member
import StructuredData.Proofs.Number.Decimal
import StructuredData.Proofs.Text.Parts

/-!
# Remarks on the elements of lists

Four checks go through a list: those of breadcrumbs, questions and steps, and that of offers.  What
they can complain of in an element is a row of complaints, each with its reason.  A check reports
the elements of its list (`ReportsElements`) if it complains of an element where there is reason for
it, at the element's place and in the order of the list, and finds nothing else.  What it finds in
two lists put together is then what it finds in each, the places in the second moved by the length
of the first.

`list_elements` says this of the four checks.
-/

namespace StructuredData

/-- What there can be to complain of in an element of a list: a property of the element, the reason
for the complaint, and what is said. -/
structure Complaint where
  property : Text
  Applies : Value → Prop
  decidable : DecidablePred Applies
  severity : Severity
  /-- The message about the element at a place counted from zero. -/
  message : ℕ → Text
  suggestion : Text

namespace Complaint

instance (c : Complaint) : DecidablePred c.Applies := c.decidable

/-- The complaint about the element at a place of a list. -/
def about (c : Complaint) (list : Text) (i : ℕ) : Finding :=
  ⟨c.severity, c.message i, some (list ++ "[" ++ Text.ofNat i ++ "]." ++ c.property),
    some c.suggestion⟩

/-- An element lacks a property; elements are counted from one in the message. -/
def lacks (noun property suggestion : Text) : Complaint where
  property := property
  Applies item := ¬ item.Supplies property
  decidable _ := inferInstance
  severity := .error
  message i := noun ++ " " ++ Text.ofNat (i + 1) ++ " missing " ++ property
  suggestion := suggestion

/-- A property of an offer has not its format. -/
def offerBreaks (property : Text) (f : Format) (opening suggestion : Text) : Complaint where
  property := property
  Applies offer := ¬ offer.Fits property f
  decidable _ := inferInstance
  severity := .error
  message i := opening ++ ("offers[" ++ Text.ofNat i ++ "]")
  suggestion := suggestion

end Complaint

/-! ## Complaints about the elements of four lists -/

/-- The value supplies an availability that is none of the standard ones. -/
def Value.HasOddAvailability (v : Value) : Prop :=
  ∃ w, v.HasMember "availability" w ∧ w.isPresent = true ∧
    ∀ t ∈ Check.standardAvailabilities, w ≠ .string t

namespace Check

open Complaint

lemma isObject_of_isPresent_get {v : Value} {name : Text} (h : (v.get name).isPresent = true) :
    v.isObject = true := by
  obtain ⟨w, ⟨ms, rfl, -⟩, -⟩ := Value.has_iff_supplies.mp h
  rfl

lemma isOddAvailability_iff {v : Value} :
    (v.isObject && isOddAvailability (v.get "availability")) = true ↔ v.HasOddAvailability := by
  have hstandard (w : Value) : (!standardAvailabilities.any fun t => w.isText t) = true ↔
      ∀ t ∈ standardAvailabilities, w ≠ .string t := by
    rw [Bool.not_eq_true', List.any_eq_false]
    refine forall₂_congr fun t _ => not_congr ?_
    cases w <;> simp [Value.isText, Value.text?]
  unfold isOddAvailability Value.HasOddAvailability
  rw [Bool.and_eq_true, Bool.and_eq_true, hstandard]
  constructor
  · rintro ⟨-, hpresent, hodd⟩
    have hne := Value.ne_null_of_isPresent hpresent
    exact ⟨_, (Value.get_eq_iff hne).mp rfl, hpresent, hodd⟩
  · rintro ⟨w, hmember, hpresent, hodd⟩
    rw [(Value.get_eq_iff (Value.ne_null_of_isPresent hpresent)).mpr hmember]
    obtain ⟨ms, rfl, -⟩ := hmember
    exact ⟨rfl, hpresent, hodd⟩

instance (v : Value) : Decidable v.HasOddAvailability := decidable_of_iff _ isOddAvailability_iff

/-- What there can be to complain of in a breadcrumb. -/
def breadcrumbComplaints : List Complaint :=
  [lacks "Breadcrumb item" "name" "Add \"name\" property to each breadcrumb item"]

/-- What there can be to complain of in a question. -/
def questionComplaints : List Complaint :=
  [lacks "FAQ" "question" "Add \"question\" property to each FAQ item",
    lacks "FAQ" "answer" "Add \"answer\" property to each FAQ item"]

/-- What there can be to complain of in a step. -/
def stepComplaints : List Complaint :=
  [lacks "HowTo step" "name" "Add \"name\" property to each step"]

/-- What there can be to complain of in an offer. -/
def offerComplaints : List Complaint :=
  [offerBreaks "price" .price "Invalid price format in " "Use numeric format like 19.99",
    offerBreaks "priceCurrency" .currency "Invalid currency code in "
      "Use 3-letter ISO 4217 currency code like USD, EUR, GBP",
    { property := "availability"
      Applies := Value.HasOddAvailability
      decidable := inferInstance
      severity := .warning
      message := fun i =>
        "Non-standard availability value in " ++ ("offers[" ++ Text.ofNat i ++ "]")
      suggestion := "Use standard Schema.org availability values" }]

/-! ## What it is to report elements -/

/-- The finding is about the element at a place of a list. -/
def IsAbout (list : Text) (i : ℕ) (f : Finding) : Prop :=
  ∃ property, f.path = some (list ++ "[" ++ Text.ofNat i ++ "]." ++ property)

/-- The first finding comes before the second: it is about an earlier element, or about the same
element and an earlier complaint of the row. -/
def Precedes (list : Text) (cs : List Complaint) (f f' : Finding) : Prop :=
  ∃ c i c' i', f = c.about list i ∧ f' = c'.about list i' ∧ (i < i' ∨ i = i' ∧ [c, c'].Sublist cs)

/-- The second finding is the first one about an element so many places later. -/
def IsMoved (list : Text) (cs : List Complaint) (places : ℕ) (f f' : Finding) : Prop :=
  ∃ c ∈ cs, ∃ i, f = c.about list i ∧ f' = c.about list (i + places)

/-- The check finds reasons for the complaints in the elements of a list and nothing else. -/
structure ReportsElements (list : Text) (cs : List Complaint)
    (check : Document → Checking Unit) : Prop where
  /-- Whatever the collector holds stays there, and what the check finds comes behind it. -/
  adds : ∀ d fs, (check d).on fs = (.ok (), fs ++ (check d).alone)
  /-- A complaint is made about an element exactly if there is reason for it. -/
  about_mem_iff : ∀ d items, d.get list = .array items → ∀ c ∈ cs, ∀ i,
    c.about list i ∈ (check d).alone.ofSeverity c.severity ↔
      ∃ item, items[i]? = some item ∧ c.Applies item
  /-- Something is found about an element exactly if there is reason for a complaint. -/
  isAbout_iff : ∀ d items, d.get list = .array items → ∀ i,
    (∃ s, ∃ f ∈ (check d).alone.ofSeverity s, IsAbout list i f) ↔
      ∃ item, items[i]? = some item ∧ ∃ c ∈ cs, c.Applies item
  /-- Nothing but complaints is found. -/
  eq_about : ∀ d items, d.get list = .array items → ∀ s, ∀ f ∈ (check d).alone.ofSeverity s,
    ∃ c ∈ cs, c.severity = s ∧ ∃ i, i < items.length ∧ f = c.about list i
  /-- Complaints of one severity are in the order of the elements, and those about one element in
  the order of the row. -/
  ordered : ∀ d items, d.get list = .array items → ∀ s,
    ((check d).alone.ofSeverity s).Pairwise (Precedes list cs)
  /-- Two lists put together are complained of one after the other. -/
  append : ∀ d front back items items', d.get list = .array (items ++ items') →
    front.get list = .array items → back.get list = .array items' → ∀ s, ∃ moved,
      List.Forall₂ (IsMoved list cs items.length) ((check back).alone.ofSeverity s) moved ∧
      (check d).alone.ofSeverity s = (check front).alone.ofSeverity s ++ moved

variable {list : Text} {cs : List Complaint} {c c' : Complaint} {i i' : ℕ} {items : List Value}
  {f : Finding}

/-! ## Places -/

/-- The path of a complaint shows the place of the element and the property. -/
lemma path_inj {property property' : Text}
    (h : list ++ "[" ++ Text.ofNat i ++ "]." ++ property =
      list ++ "[" ++ Text.ofNat i' ++ "]." ++ property') :
    i = i' ∧ property = property' := by
  have hbracket (n : ℕ) : CodePoint.ofChar ']' ∉ Text.ofNat n := fun hmem =>
    absurd (Text.isAsciiDigit_of_mem_ofNat hmem) (by decide)
  simp only [List.append_assoc, List.append_cancel_left_eq] at h
  obtain ⟨hplace, hrest⟩ := Text.append_separator_inj (hbracket i) (hbracket i') h
  exact ⟨Text.ofNat_injective hplace, (List.cons.inj hrest).2⟩

lemma isAbout_about : IsAbout list i' (c.about list i) ↔ i = i' := by
  constructor
  · rintro ⟨property, hpath⟩
    exact (path_inj (Option.some.inj hpath)).1
  · rintro rfl
    exact ⟨c.property, rfl⟩

/-! ## Reasons -/

/-- The reasons for complaints in the elements of a list, each with its place. -/
def reasons (cs : List Complaint) (items : List Value) : List (Complaint × ℕ) :=
  items.zipIdx.flatMap fun item => (cs.filter fun c => c.Applies item.1).map (·, item.2)

/-- The complaints for reasons. -/
def complaints (list : Text) (rs : List (Complaint × ℕ)) : List Finding :=
  rs.map fun r => r.1.about list r.2

lemma mem_reasons_iff :
    (c, i) ∈ reasons cs items ↔ c ∈ cs ∧ ∃ item, items[i]? = some item ∧ c.Applies item := by
  unfold reasons
  simp only [List.mem_flatMap, List.mem_map, List.mem_filter, Prod.exists, Prod.mk.injEq,
    decide_eq_true_eq, List.mk_mem_zipIdx_iff_getElem?]
  constructor
  · rintro ⟨item, _, hitem, _, ⟨hc, happlies⟩, rfl, rfl⟩
    exact ⟨hc, item, hitem, happlies⟩
  · rintro ⟨hc, item, hitem, happlies⟩
    exact ⟨item, i, hitem, c, ⟨hc, happlies⟩, rfl, rfl⟩

lemma pairwise_reasons :
    (reasons cs items).Pairwise fun r r' => r.2 < r'.2 ∨ r.2 = r'.2 ∧ [r.1, r'.1].Sublist cs := by
  have hplaces : items.zipIdx.Pairwise fun item item' => item.2 < item'.2 := by
    rw [← List.pairwise_map, List.zipIdx_map_snd]
    exact List.pairwise_lt_range'
  unfold reasons
  rw [List.pairwise_flatMap]
  constructor
  · rintro ⟨item, i⟩ -
    rw [List.pairwise_map, List.pairwise_iff_forall_sublist]
    intro c c' h
    exact .inr ⟨rfl, h.trans List.filter_sublist⟩
  · refine hplaces.imp fun hlt r hr r' hr' => .inl ?_
    obtain ⟨_, -, rfl⟩ := List.mem_map.mp hr
    obtain ⟨_, -, rfl⟩ := List.mem_map.mp hr'
    exact hlt

/-- Reasons in the second of two lists are moved by the length of the first. -/
lemma reasons_append (items items' : List Value) :
    reasons cs (items ++ items') =
      reasons cs items ++ (reasons cs items').map (Prod.map id (· + items.length)) := by
  unfold reasons
  rw [List.zipIdx_append, List.flatMap_append, Nat.zero_add, ← Nat.add_zero items.length,
    ← List.map_snd_add_zipIdx_eq_zipIdx, List.flatMap_map, List.map_flatMap]
  simp only [List.map_map]
  rfl

lemma ofSeverity_complaints (s : Severity) (rs : List (Complaint × ℕ)) :
    (Findings.ofList (complaints list rs)).ofSeverity s =
      complaints list (rs.filter fun r => r.1.severity = s) := by
  rw [Findings.ofSeverity_ofList]
  unfold complaints
  rw [List.filter_map]
  rfl

/-- A check that goes through the reasons for complaints reports the elements. -/
lemma reportsElements {check : Document → Checking Unit} {row : Document → List Finding}
    (hrecords : ∀ d, (check d).Records (row d) (.ok ()))
    (hrow : ∀ d items, d.get list = .array items → row d = complaints list (reasons cs items))
    (hdistinct : (cs.map (·.property)).Nodup) : ReportsElements list cs check := by
  have hfound : ∀ d items, d.get list = .array items → ∀ s, (check d).alone.ofSeverity s =
      complaints list ((reasons cs items).filter fun r => r.1.severity = s) := by
    intro d items hitems s
    rw [(hrecords d).alone_eq, hrow d items hitems, ofSeverity_complaints]
  exact {
    adds := by
      intro d fs
      rw [(hrecords d).onlyAdds fs, (hrecords d).ending_eq]
    about_mem_iff := by
      intro d items hitems c hc i
      rw [hfound d items hitems]
      constructor
      · intro h
        obtain ⟨⟨c', i'⟩, hr, heq⟩ := List.mem_map.mp h
        obtain ⟨hc', hitem⟩ := mem_reasons_iff.mp (List.mem_filter.mp hr).1
        obtain ⟨rfl, hproperty⟩ := path_inj (Option.some.inj (congrArg Finding.path heq))
        have hsame : c' = c := List.inj_on_of_nodup_map hdistinct hc' hc hproperty
        rw [← hsame]
        exact hitem
      · intro hitem
        have hr : (c, i) ∈ reasons cs items := mem_reasons_iff.mpr ⟨hc, hitem⟩
        exact List.mem_map.mpr ⟨(c, i), List.mem_filter.mpr ⟨hr, decide_eq_true rfl⟩, rfl⟩
    isAbout_iff := by
      intro d items hitems i
      simp only [hfound d items hitems]
      constructor
      · rintro ⟨s, f, hf, habout⟩
        obtain ⟨⟨c, j⟩, hr, rfl⟩ := List.mem_map.mp hf
        obtain rfl := isAbout_about.mp habout
        obtain ⟨hc, item, hitem, happlies⟩ := mem_reasons_iff.mp (List.mem_filter.mp hr).1
        exact ⟨item, hitem, c, hc, happlies⟩
      · rintro ⟨item, hitem, c, hc, happlies⟩
        have hr : (c, i) ∈ reasons cs items := mem_reasons_iff.mpr ⟨hc, item, hitem, happlies⟩
        have hmem : (c, i) ∈ (reasons cs items).filter fun r => r.1.severity = c.severity :=
          List.mem_filter.mpr ⟨hr, decide_eq_true rfl⟩
        exact ⟨c.severity, _, List.mem_map_of_mem hmem, isAbout_about.mpr rfl⟩
    eq_about := by
      intro d items hitems s f hf
      rw [hfound d items hitems] at hf
      obtain ⟨⟨c, i⟩, hr, rfl⟩ := List.mem_map.mp hf
      obtain ⟨hr, hs⟩ := List.mem_filter.mp hr
      obtain ⟨hc, item, hitem, -⟩ := mem_reasons_iff.mp hr
      exact ⟨c, hc, of_decide_eq_true hs, i, (List.getElem?_eq_some_iff.mp hitem).1, rfl⟩
    ordered := by
      intro d items hitems s
      rw [hfound d items hitems]
      unfold complaints
      rw [List.pairwise_map]
      refine (pairwise_reasons.filter _).imp ?_
      rintro ⟨c, i⟩ ⟨c', i'⟩ h
      exact ⟨c, i, c', i', rfl, rfl, h⟩
    append := by
      intro d front back items items' hd hfront hback s
      -- the severity of a complaint does not depend on its place
      have hmoved : ((reasons cs items').map (Prod.map id (· + items.length))).filter
          (fun r => r.1.severity = s) =
            ((reasons cs items').filter fun r => r.1.severity = s).map
              (Prod.map id (· + items.length)) := by
        rw [List.filter_map]
        rfl
      rw [hfound d _ hd, hfound front _ hfront, hfound back _ hback, reasons_append,
        List.filter_append, hmoved]
      refine ⟨_, ?_, List.map_append⟩
      rw [List.map_map, complaints, List.forall₂_map_left_iff, List.forall₂_map_right_iff,
        List.forall₂_same]
      rintro ⟨c, i⟩ hr
      exact ⟨c, (mem_reasons_iff.mp (List.mem_filter.mp hr).1).1, i, rfl, rfl⟩ }

/-! ## The four checks -/

lemma complaints_map_filter (cs : List Complaint) (item : Value) (i : ℕ) :
    complaints list ((cs.filter fun c => c.Applies item).map (·, i)) =
      cs.flatMap fun c => when (c.Applies item) (c.about list i) := by
  induction cs with
  | nil => rfl
  | cons c cs ih =>
    rw [List.filter_cons, List.flatMap_cons, ← ih]
    by_cases h : c.Applies item <;> simp [complaints, when, h]

lemma eachItem_eq_complaints {check : ℕ → Value → List Finding}
    (h : ∀ i item, check i item = cs.flatMap fun c => when (c.Applies item) (c.about list i)) :
    eachItem items check = complaints list (reasons cs items) := by
  unfold eachItem reasons
  simp only [h, ← complaints_map_filter]
  unfold complaints
  rw [List.map_flatMap]

lemma reportsElements_of_eachItemOf {check : Document → Checking Unit}
    {itemRow : ℕ → Value → List Finding}
    (hrecords : ∀ d, (check d).Records (eachItemOf (d.get list) itemRow) (.ok ()))
    (h : ∀ i item, itemRow i item = cs.flatMap fun c => when (c.Applies item) (c.about list i))
    (hdistinct : (cs.map (·.property)).Nodup) : ReportsElements list cs check := by
  refine reportsElements hrecords (fun d items hitems => ?_) hdistinct
  rw [hitems]
  exact eachItem_eq_complaints h

/-! ### Elements that lack properties -/

lemma itemLacks_eq (noun property suggestion : Text) (i : ℕ) (item : Value) :
    itemLacks list noun property suggestion i item =
      when ((lacks noun property suggestion).Applies item)
        ((lacks noun property suggestion).about list i) := by
  have happlies : decide ((lacks noun property suggestion).Applies item) = !item.has property := by
    rw [Bool.eq_iff_iff, decide_eq_true_eq, Bool.not_eq_true', ← Bool.not_eq_true,
      Value.has_iff_supplies]
    rfl
  rw [happlies]
  rfl

lemma reportsElements_breadcrumbList (t : Thresholds) :
    ReportsElements "itemListElement" breadcrumbComplaints
      (fun d => Checking.typeSpecific t d (.string "BreadcrumbList")) := by
  refine reportsElements_of_eachItemOf (fun d => records_typeSpecific t d _) (fun i item => ?_)
    (by decide)
  rw [itemLacks_eq]
  exact (List.append_nil _).symm

lemma reportsElements_faqPage (t : Thresholds) :
    ReportsElements "mainEntity" questionComplaints
      (fun d => Checking.typeSpecific t d (.string "FAQPage")) := by
  refine reportsElements_of_eachItemOf (fun d => records_typeSpecific t d _) (fun i item => ?_)
    (by decide)
  unfold faqItem
  rw [itemLacks_eq, itemLacks_eq]
  exact congrArg _ (List.append_nil _).symm

lemma reportsElements_howTo (t : Thresholds) :
    ReportsElements "step" stepComplaints
      (fun d => Checking.typeSpecific t d (.string "HowTo")) := by
  refine reportsElements_of_eachItemOf (fun d => records_typeSpecific t d _) (fun i item => ?_)
    (by decide)
  rw [itemLacks_eq]
  exact (List.append_nil _).symm

/-! ### Offers -/

lemma isObject_and_breaks_eq (item : Value) (property : Text) (f : Format) :
    (item.isObject && breaks (item.get property) f) = decide (¬ item.Fits property f) := by
  rw [Bool.eq_iff_iff, decide_eq_true_eq, Value.fits_iff, Bool.and_eq_true, breaks,
    Bool.and_eq_true, Bool.not_eq_true', Classical.not_imp, Bool.not_eq_true]
  exact and_iff_right_of_imp fun h => isObject_of_isPresent_get h.1

lemma reportsElements_offers :
    ReportsElements "offers" offerComplaints Checking.offers := by
  refine reportsElements_of_eachItemOf records_offers (fun i item => ?_) (by decide)
  have hodd : (item.isObject && isOddAvailability (item.get "availability")) =
      decide item.HasOddAvailability := by
    rw [Bool.eq_iff_iff, decide_eq_true_eq, isOddAvailability_iff]
  unfold offer
  rw [isObject_and_breaks_eq, isObject_and_breaks_eq, hodd]
  simp [offerComplaints, offerBreaks, about, Finding.errorAt, Finding.warningAt, itemPath]

/-- The checks of breadcrumbs, questions, steps and offers report the elements of their lists. -/
theorem list_elements (t : Thresholds) :
    ReportsElements "itemListElement" breadcrumbComplaints
      (fun d => Checking.typeSpecific t d (.string "BreadcrumbList")) ∧
    ReportsElements "mainEntity" questionComplaints
      (fun d => Checking.typeSpecific t d (.string "FAQPage")) ∧
    ReportsElements "step" stepComplaints
      (fun d => Checking.typeSpecific t d (.string "HowTo")) ∧
    ReportsElements "offers" offerComplaints Checking.offers :=
  ⟨reportsElements_breadcrumbList t, reportsElements_faqPage t, reportsElements_howTo t,
    reportsElements_offers⟩

end Check

end StructuredData
