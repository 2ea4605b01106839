import Mathlib.Data.List.Perm.Subperm
import StructuredData.Proofs.Page.Labels

/-!
# Following the advice for a page

A page is given no advice exactly if it lacks nothing that its types call for (`LacksNothing`).
Only four types call for anything (`advisedTypes`), so that a further document of any other type may
settle a piece of advice and never gives rise to one (`recommendations_sublist_of_added`).  And no
advice is without an end: three documents, of the types that are advised, settle everything that a
page can be advised of (`recommendations_eq_nil_of_added`).

The documents that are added may stand anywhere among the others.
-/

namespace StructuredData

namespace Page

variable {ss added ss' : List Submission} {t : Thresholds} {name : Text}

/-- The types that call for advice when they are declared. -/
def advisedTypes : List Text := ["Article", "Product", "LocalBusiness", "FAQPage"]

/-- The page is another one with further documents among its own, wherever they stand. -/
def IsExtension (ss added ss' : List Submission) : Prop := ss'.Perm (ss ++ added)

lemma declares_eq_true_iff : declares ss name = true ↔ ∃ s ∈ ss, s.label = .string name := by
  unfold declares
  rw [List.any_eq_true]
  refine exists_congr fun s => and_congr_right fun _ => ?_
  cases s.label <;> simp [Value.isText, Value.text?]

lemma declares_eq_false_iff : declares ss name = false ↔ ∀ s ∈ ss, s.label ≠ .string name := by
  rw [Bool.eq_false_iff, Ne, declares_eq_true_iff]
  push Not
  rfl

namespace IsExtension

lemma append (ss added : List Submission) : IsExtension ss added (ss ++ added) := List.Perm.refl _

lemma declares_eq (h : IsExtension ss added ss') (name : Text) :
    declares ss' name = (declares ss name || declares added name) := by
  unfold declares
  rw [h.any_eq, List.any_append]

lemma length_eq (h : IsExtension ss added ss') : ss'.length = ss.length + added.length := by
  rw [List.Perm.length_eq h, List.length_append]

/-- What is declared stays declared. -/
lemma declares_mono (h : IsExtension ss added ss') (hname : declares ss' name = false) :
    declares ss name = false := by
  rw [h.declares_eq, Bool.or_eq_false_iff] at hname
  exact hname.1

/-- What the further documents do not declare was declared before. -/
lemma declares_of_not_added (h : IsExtension ss added ss') (hadded : declares added name = false)
    (hname : declares ss' name = true) : declares ss name = true := by
  rwa [h.declares_eq, hadded, Bool.or_false] at hname

lemma declares_of_added (h : IsExtension ss added ss') (hadded : declares added name = true) :
    declares ss' name = true := by
  rw [h.declares_eq, hadded, Bool.or_true]

/-! ## Advice does not breed -/

/-- Advice that asks for one type where another is declared is not given rise to by documents that
do not declare the other. -/
lemma advise_sublist_of_missing (h : IsExtension ss added ss') {wanted : Text}
    (hname : declares added name = false) (advice : Text) :
    (advise (declares ss' name && !declares ss' wanted) advice).Sublist
      (advise (declares ss name && !declares ss wanted) advice) := by
  refine advise_sublist (fun hadvised => ?_) advice
  rw [Bool.and_eq_true, Bool.not_eq_true'] at hadvised ⊢
  exact ⟨h.declares_of_not_added hname hadvised.1, h.declares_mono hadvised.2⟩

lemma recommendations_sublist_of_added (h : IsExtension ss added ss') (t : Thresholds)
    (hadded : ∀ name ∈ advisedTypes, declares added name = false) :
    (recommendations t ss').Sublist (recommendations t ss) := by
  have harticle : declares added "Article" = false := hadded _ (by decide)
  have hproduct : declares added "Product" = false := hadded _ (by decide)
  have hbusiness : declares added "LocalBusiness" = false := hadded _ (by decide)
  have hfaq : declares added "FAQPage" = false := hadded _ (by decide)
  refine .append (.append (.append (.append ?_ ?_) ?_) ?few) ?none
  · exact h.advise_sublist_of_missing harticle _
  · exact h.advise_sublist_of_missing hproduct _
  · exact h.advise_sublist_of_missing hbusiness _
  case few =>
    refine advise_sublist (fun hfew => ?_) _
    rw [Bool.and_eq_true, decide_eq_true_eq, h.length_eq] at hfew
    rw [Bool.and_eq_true, decide_eq_true_eq]
    exact ⟨h.declares_of_not_added hfaq hfew.1, by omega⟩
  case none =>
    refine advise_sublist (fun hnone => ?_) _
    rw [Bool.not_eq_true', List.any_eq_false] at hnone ⊢
    intro type htype
    rw [Bool.not_eq_true]
    exact h.declares_mono (Bool.eq_false_iff.mpr (hnone type htype))

end IsExtension

/-! ## Advice comes to an end -/

/-- A page that declares three types has three documents. -/
lemma three_le_length {a b c : Text} (hab : a ≠ b) (hac : a ≠ c) (hbc : b ≠ c)
    (ha : declares ss a = true) (hb : declares ss b = true) (hc : declares ss c = true) :
    3 ≤ ss.length := by
  have hlabels : [Value.string a, .string b, .string c] ⊆ ss.map (·.label) := by
    have hlabel (name : Text) (h : declares ss name = true) :
        Value.string name ∈ ss.map (·.label) :=
      List.mem_map.mpr (declares_eq_true_iff.mp h)
    simp [hlabel a ha, hlabel b hb, hlabel c hc]
  have hdistinct : [Value.string a, .string b, .string c].Nodup := by
    simp [hab, hac, hbc]
  have hlength := (List.subperm_of_subset hdistinct hlabels).length_le
  rwa [List.length_map] at hlength

/-- The page has what its types call for: an article a site, a product and a business their
organization, and questions company.  Something on it is content. -/
structure LacksNothing (t : Thresholds) (ss : List Submission) : Prop where
  article : declares ss "Article" = true → declares ss "WebSite" = true
  product : declares ss "Product" = true → declares ss "Organization" = true
  localBusiness : declares ss "LocalBusiness" = true → declares ss "Organization" = true
  faqPage : declares ss "FAQPage" = true → t.faqMinSchemaTypes ≤ ss.length
  content : ∃ name ∈ contentTypes, declares ss name = true

lemma advise_eq_nil_iff {condition : Bool} {advice : Text} :
    advise condition advice = [] ↔ condition = false := by
  cases condition <;> simp [advise]

lemma recommendations_eq_nil_iff : recommendations t ss = [] ↔ LacksNothing t ss := by
  have hwanted (present wanted : Bool) :
      (present && !wanted) = false ↔ (present = true → wanted = true) := by
    cases present <;> cases wanted <;> decide
  have hfew : (declares ss "FAQPage" && decide ((ss.length : ℤ) < t.faqMinSchemaTypes)) = false ↔
      (declares ss "FAQPage" = true → t.faqMinSchemaTypes ≤ ss.length) := by
    cases declares ss "FAQPage" <;> simp
  have hnone : (!contentTypes.any (declares ss)) = false ↔
      ∃ name ∈ contentTypes, declares ss name = true := by
    rw [Bool.not_eq_false', List.any_eq_true]
  unfold recommendations
  simp only [List.append_eq_nil_iff, advise_eq_nil_iff, hwanted, hfew, hnone]
  constructor
  · rintro ⟨⟨⟨⟨harticle, hproduct⟩, hbusiness⟩, hfaq⟩, hcontent⟩
    exact ⟨harticle, hproduct, hbusiness, hfaq, hcontent⟩
  · rintro ⟨harticle, hproduct, hbusiness, hfaq, hcontent⟩
    exact ⟨⟨⟨⟨harticle, hproduct⟩, hbusiness⟩, hfaq⟩, hcontent⟩

lemma IsExtension.recommendations_eq_nil_of_added (h : IsExtension ss added ss')
    (hlimit : t.faqMinSchemaTypes ≤ 3) (horganization : declares added "Organization" = true)
    (hwebSite : declares added "WebSite" = true) (harticle : declares added "Article" = true) :
    recommendations t ss' = [] := by
  have hlength := h.length_eq
  have hmany := three_le_length (by decide) (by decide) (by decide) horganization hwebSite harticle
  exact recommendations_eq_nil_iff.mpr {
    article := fun _ => h.declares_of_added hwebSite
    product := fun _ => h.declares_of_added horganization
    localBusiness := fun _ => h.declares_of_added horganization
    faqPage := fun _ => by omega
    content := ⟨_, List.mem_cons_self, h.declares_of_added harticle⟩ }

/-- Documents of other types than the four that call for advice add no advice, wherever they are put
on the page: what is left is some of the advice there was, in the same order.  And where a page with
questions asks for three documents at most, documents of the types Organization, WebSite and Article
leave no advice at all, which is to say that the page lacks nothing. -/
theorem advice_settled_by_documents (t : Thresholds) (ss added ss' : List Submission)
    (h : IsExtension ss added ss') :
    ((∀ s ∈ added, ∀ name ∈ advisedTypes, s.label ≠ .string name) →
      (recommendations t ss').Sublist (recommendations t ss)) ∧
    (t.faqMinSchemaTypes ≤ 3 → (∃ s ∈ added, s.label = .string "Organization") →
      (∃ s ∈ added, s.label = .string "WebSite") → (∃ s ∈ added, s.label = .string "Article") →
        recommendations t ss' = []) ∧
    (recommendations t ss' = [] ↔ LacksNothing t ss') := by
  refine ⟨?other, ?all, recommendations_eq_nil_iff⟩
  case other =>
    intro hadded
    refine h.recommendations_sublist_of_added t fun name hname => ?_
    exact declares_eq_false_iff.mpr fun s hs => hadded s hs name hname
  case all =>
    intro hlimit horganization hwebSite harticle
    exact h.recommendations_eq_nil_of_added hlimit (declares_eq_true_iff.mpr horganization)
      (declares_eq_true_iff.mpr hwebSite) (declares_eq_true_iff.mpr harticle)

/-- A page with answers on a lamp that can be bought nearby. -/
def lampShop : List Submission :=
  [.ofTexts "FAQPage" "\x7b\x7d", .ofTexts "Product" "\x7b\x7d"]

/-- Whose site it is, and what it is about. -/
def shopOwner : List Submission :=
  [.ofTexts "Article" "\x7b\x7d", .ofTexts "Organization" "no JSON", .ofTexts "WebSite" ""]

theorem lampShop_settled :
    (recommendations {} lampShop).length = 2 ∧
      (recommendations {} (lampShop ++ [.ofTexts "Organization" ""])).Sublist
        (recommendations {} lampShop) ∧
      recommendations {} (shopOwner ++ lampShop) = [] := by
  refine ⟨by decide +kernel, ?one, ?all⟩
  case one =>
    refine (advice_settled_by_documents {} _ _ _ (.append lampShop _)).1 ?_
    intro s hs name hname
    have hother : ∀ name ∈ advisedTypes, Text.ofString "Organization" ≠ name := by decide
    rw [List.mem_singleton.mp hs]
    exact fun hlabel => hother name hname (Value.string.inj hlabel)
  case all =>
    have h : IsExtension lampShop shopOwner (shopOwner ++ lampShop) := List.perm_append_comm
    refine (advice_settled_by_documents {} _ _ _ h).2.1 le_rfl ?_ ?_ ?_
    · exact ⟨_, List.mem_cons_of_mem _ List.mem_cons_self, rfl⟩
    · exact ⟨_, List.mem_cons_of_mem _ (List.mem_cons_of_mem _ List.mem_cons_self), rfl⟩
    · exact ⟨_, List.mem_cons_self, rfl⟩

end Page

end StructuredData
