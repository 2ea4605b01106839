import StructuredData.KnownType
import StructuredData.Proofs.Json.Member
import StructuredData.Requirement.Basic

/-!
# What a conforming document is

Conformance is stated here without reference to any check: which members an object must have, and
which form they must have where they are there.  The conditions are about JSON values; a value that
is no object has no members, so that it lacks everything that is asked for and breaks no format.

The type that a document names first decides, with the declared one, about the requirements and
about the conditions that only some types have.  `ownType_primaryType` says that every document has
exactly one own type or none, and that this is the one that the checks go by.
-/

namespace StructuredData

/-! ## Types -/

/-- A value of `@type` names a type first: it is that text, or a list whose first text with
something in it is that text. -/
def NamesFirst (v : Value) (t : Text) : Prop :=
  t ≠ [] ∧ (v = .string t ∨ ∃ before after, v = .array (before ++ .string t :: after) ∧
    ∀ u, .string u ∈ before → u = [])

/-- The type that an object names first, none if it names no type. -/
def OwnType (v : Value) (own : Option Text) : Prop :=
  ∀ t, own = some t ↔ ∃ w, v.HasMember "@type" w ∧ NamesFirst w t

/-- What each known type asks for beyond the presence of properties. -/
def TypeRules (v : Value) : KnownType → Prop
  | .article => v.Fits "datePublished" .date ∧ v.Fits "dateModified" .date
  | .event => v.Fits "startDate" .date ∧ v.Fits "endDate" .date
  | .breadcrumbList => v.ListsObjectsWith "itemListElement" ["name"]
  | .howTo => v.ListsObjectsWith "step" ["name"]
  | .faqPage => v.ListsObjectsWith "mainEntity" ["question", "answer"]
  | .review => ∀ rating, v.HasMember "reviewRating" rating → rating.isPresent = true →
      rating.Supplies "ratingValue" ∧ rating.Supplies "bestRating"
  | .product | .organization | .person | .localBusiness | .webSite => True

/-- A document that is declared with a label, and whose own type is the given one, has all that is
asked of it. -/
structure Conforms (table : RequirementTable) (label : Text) (own : Option Text) (v : Value) :
    Prop where
  context : v.Supplies "@context"
  type : v.Supplies "@type"
  required : ∀ r, (own.bind table.find?).or (table.find? label) = some r →
    ∀ p ∈ r.required, v.Supplies p
  links : ∀ p ∈ (["url", "image", "logo", "sameAs", "mainEntityOfPage", "item"] : List Text),
    ∀ t, v.HasMember p (.string t) → t = [] ∨ Format.url.accepts t = true
  email : v.Fits "email" .email
  offers : ∀ offers, v.HasMember "offers" (.array offers) → ∀ offer ∈ offers,
    offer.Fits "price" .price ∧ offer.Fits "priceCurrency" .currency
  ofType : ∀ k : KnownType, own.getD label = k.name → TypeRules v k

/-! ## The own type -/

lemma head?_filter_filterMap_eq_some_iff (items : List Value) (t : Text) :
    ((items.filterMap Value.text?).filter fun t => !t.isEmpty).head? = some t ↔
      t ≠ [] ∧ ∃ before after, items = before ++ .string t :: after ∧
        ∀ u, .string u ∈ before → u = [] := by
  induction items with
  | nil => simp
  | cons item rest ih =>
    by_cases hitem : ∃ u, item = .string u ∧ u ≠ []
    · -- the first element is itself a text with something in it
      obtain ⟨u, rfl, hu⟩ := hitem
      have hhead : (((Value.string u :: rest).filterMap Value.text?).filter
          fun t => !t.isEmpty).head? = some u := by
        simp [Value.text?, hu]
      rw [hhead]
      constructor
      · rintro ⟨rfl⟩
        exact ⟨hu, [], rest, rfl, by simp⟩
      · rintro ⟨-, before, after, hsplit, hbefore⟩
        cases before with
        | nil =>
          obtain ⟨hut, -⟩ := List.cons.inj hsplit
          cases hut
          rfl
        | cons b before =>
          obtain ⟨rfl, -⟩ := List.cons.inj hsplit
          exact absurd (hbefore u (by simp)) hu
    · have hskip : ((item :: rest).filterMap Value.text?).filter (fun t => !t.isEmpty) =
          (rest.filterMap Value.text?).filter fun t => !t.isEmpty := by
        cases item with
        | string u =>
          have hu : u = [] := by
            by_contra hne
            exact hitem ⟨u, rfl, hne⟩
          simp [Value.text?, hu]
        | _ => rw [List.filterMap_cons_none rfl]
      rw [hskip, ih]
      refine and_congr_right fun ht => ?_
      constructor
      · rintro ⟨before, after, rfl, hbefore⟩
        refine ⟨item :: before, after, rfl, fun u hu => ?_⟩
        rcases List.mem_cons.mp hu with rfl | hu
        · by_contra hne
          exact hitem ⟨u, rfl, hne⟩
        · exact hbefore u hu
      · rintro ⟨before, after, hsplit, hbefore⟩
        cases before with
        | nil =>
          obtain ⟨rfl, -⟩ := List.cons.inj hsplit
          exact absurd ⟨t, rfl, ht⟩ hitem
        | cons b before =>
          obtain ⟨rfl, rfl⟩ := List.cons.inj hsplit
          exact ⟨before, after, rfl, fun u hu => hbefore u (by simp [hu])⟩

lemma head?_typeNames_eq_some_iff {v : Value} {t : Text} :
    (Document.typeNames v).head? = some t ↔ NamesFirst v t := by
  unfold NamesFirst
  cases v with
  | string u =>
    by_cases hu : u = []
    · subst hu
      simp only [Document.typeNames, List.isEmpty_nil, if_true, List.head?_nil]
      constructor
      · intro h
        cases h
      · rintro ⟨ht, h | ⟨_, _, h, -⟩⟩
        · cases h
          exact absurd rfl ht
        · cases h
    · simp only [Document.typeNames, List.isEmpty_iff, hu, if_false, List.head?_cons,
        Option.some.injEq]
      constructor
      · rintro rfl
        exact ⟨hu, .inl rfl⟩
      · rintro ⟨-, h | ⟨_, _, h, -⟩⟩
        · cases h
          rfl
        · cases h
  | array items =>
    have hnames := head?_filter_filterMap_eq_some_iff items t
    simpa [Document.typeNames] using hnames
  | _ => simp [Document.typeNames]

/-- The type that the checks go by is the own type. -/
lemma ownType_primaryType (v : Value) : OwnType v (Document.ofValue v).primaryType := by
  intro t
  have hget : (Document.ofValue v).get "@type" = v.get "@type" := rfl
  unfold Document.primaryType Document.types
  rw [hget, head?_typeNames_eq_some_iff]
  constructor
  · intro h
    have hnull : v.get "@type" ≠ .null := by
      intro hnull
      rw [hnull] at h
      obtain ⟨-, h | ⟨_, _, h, -⟩⟩ := h <;> cases h
    exact ⟨_, (Value.get_eq_iff hnull).mp rfl, h⟩
  · rintro ⟨w, hw, hfirst⟩
    have hnull : w ≠ .null := by
      rintro rfl
      obtain ⟨-, h | ⟨_, _, h, -⟩⟩ := hfirst <;> cases h
    rw [(Value.get_eq_iff hnull).mpr hw]
    exact hfirst

lemma OwnType.unique {v : Value} {own own' : Option Text} (h : OwnType v own)
    (h' : OwnType v own') : own = own' := by
  ext t
  exact (h t).trans (h' t).symm

end StructuredData
