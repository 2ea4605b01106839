import Mathlib.Data.List.Forall2
import StructuredData.Check.Basic
import StructuredData.Format
import StructuredData.Proofs.Json.DistinctNames

/-!
# The order of members

Two values can differ in nothing but the order in which their objects list their members, at any
depth (`Value.Reordered`).  As long as no object has a name twice, such values cannot be told apart
by looking members up, by following a path, or by going through the elements of an array
(`Value.SameUpToOrder`).  What does depend on the order is the list of a document's texts, and it
does so only by a permutation (`strings_perm`).
-/

namespace StructuredData

/-! ## Reordering -/

/-- Members with the same names in the same order, whose values are related. -/
inductive Members.Related (R : Value → Value → Prop) : Members → Members → Prop
  | nil : Related R [] []
  | cons (name : Text) {v v' : Value} {ms ms' : Members} (hvalue : R v v')
      (hrest : Related R ms ms') : Related R ((name, v) :: ms) ((name, v') :: ms')

/-- The values differ at most in the order in which their objects list their members. -/
inductive Value.Reordered : Value → Value → Prop
  | refl (v : Value) : Reordered v v
  | array {items items' : List Value} (h : List.Forall₂ Reordered items items') :
      Reordered (.array items) (.array items')
  | object {ms mid ms' : Members} (hperm : ms.Perm mid)
      (hrelated : Members.Related Reordered mid ms') : Reordered (.object ms) (.object ms')

/-- The values differ at most in the order of members, and no object in them has a name twice. -/
structure Value.SameUpToOrder (v v' : Value) : Prop where
  reordered : v.Reordered v'
  distinct : v.NamesDistinct

namespace Members

variable {R : Value → Value → Prop} {ms ms' : Members}

lemma Related.get? (h : Related R ms ms') (name : Text) :
    Option.Rel R (Members.get? name ms) (Members.get? name ms') := by
  induction h with
  | nil => exact .none
  | cons other hvalue _ ih =>
    unfold Members.get?
    split_ifs
    · exact .some hvalue
    · exact ih

/-- The texts among related members are the same, if related values are the same text or none. -/
lemma Related.filterMap_text?_eq (h : Related R ms ms')
    (htext : ∀ v v', R v v' → v.text? = v'.text?) :
    ms.filterMap (fun m => m.2.text?.map fun t => (m.1, t)) =
      ms'.filterMap fun m => m.2.text?.map fun t => (m.1, t) := by
  induction h with
  | nil => rfl
  | cons name hvalue _ ih =>
    simp only [List.filterMap_cons, htext _ _ hvalue, ih]

lemma namesDistinct_get? (h : ∀ m ∈ ms, m.2.NamesDistinct) {name : Text} {v : Value}
    (hv : get? name ms = some v) : v.NamesDistinct := by
  induction ms with
  | nil => cases hv
  | cons m rest ih =>
    unfold get? at hv
    split_ifs at hv
    · cases hv
      exact h m List.mem_cons_self
    · exact ih (fun n hn => h n (List.mem_cons_of_mem _ hn)) hv

end Members

namespace Value

variable {v v' : Value}

/-! ## What does not depend on the order -/

lemma Reordered.isPresent_eq (h : v.Reordered v') : v.isPresent = v'.isPresent := by
  cases h <;> rfl

lemma Reordered.text?_eq (h : v.Reordered v') : v.text? = v'.text? := by
  cases h <;> rfl

lemma Reordered.isObject_eq (h : v.Reordered v') : v.isObject = v'.isObject := by
  cases h <;> rfl

lemma Reordered.hasFormat_eq (h : v.Reordered v') (f : Format) :
    v.hasFormat f = v'.hasFormat f := by
  cases h <;> rfl

lemma Reordered.isText_eq (h : v.Reordered v') (t : Text) : v.isText t = v'.isText t := by
  unfold isText
  rw [h.text?_eq]

lemma filterMap_text?_eq {items items' : List Value} (h : List.Forall₂ Reordered items items') :
    items.filterMap text? = items'.filterMap text? := by
  induction h with
  | nil => rfl
  | cons hitem _ ih => simp only [List.filterMap_cons, hitem.text?_eq, ih]

lemma Reordered.typeNames_eq (h : v.Reordered v') :
    Document.typeNames v = Document.typeNames v' := by
  cases h with
  | refl => rfl
  | object => rfl
  | array hitems => simp only [Document.typeNames, filterMap_text?_eq hitems]

lemma NamesDistinct.get (h : v.NamesDistinct) (name : Text) : (v.get name).NamesDistinct := by
  cases h with
  | object _ hmembers =>
    unfold Value.get
    cases hfound : Members.get? name _ with
    | none => exact .null
    | some w => exact Members.namesDistinct_get? hmembers hfound
  | _ => exact .null

lemma Reordered.getD_null {found found' : Option Value} (h : Option.Rel Reordered found found') :
    (found.getD .null).Reordered (found'.getD .null) := by
  cases h with
  | none => exact .refl _
  | some h => exact h

namespace SameUpToOrder

lemma get (h : v.SameUpToOrder v') (name : Text) : (v.get name).SameUpToOrder (v'.get name) := by
  refine ⟨?_, h.distinct.get name⟩
  obtain ⟨hreordered, hdistinct⟩ := h
  cases hreordered with
  | refl => exact .refl _
  | array => exact .refl _
  | object hperm hrelated =>
    cases hdistinct with
    | object hnodup =>
      refine Reordered.getD_null ?_
      dsimp only [members]
      rw [Members.get?_eq_of_perm hnodup hperm]
      exact hrelated.get? name

lemma has_eq (h : v.SameUpToOrder v') (name : Text) : v.has name = v'.has name :=
  (h.get name).reordered.isPresent_eq

lemma foldl_get (h : v.SameUpToOrder v') (path : List Text) :
    (path.foldl Value.get v).SameUpToOrder (path.foldl Value.get v') := by
  induction path generalizing v v' with
  | nil => exact h
  | cons name path ih => exact ih (h.get name)

lemma items {items items' : List Value} (h : (Value.array items).SameUpToOrder (.array items')) :
    List.Forall₂ SameUpToOrder items items' := by
  obtain ⟨hreordered, hdistinct⟩ := h
  cases hdistinct with
  | array hitems =>
    cases hreordered with
    | refl => exact List.forall₂_same.mpr fun item hitem => ⟨.refl _, hitems item hitem⟩
    | array hrelated =>
      have hboth := (List.forall₂_and_left _ _).mpr ⟨hitems, hrelated⟩
      exact hboth.imp fun _ _ hitem => ⟨hitem.2, hitem.1⟩

end SameUpToOrder

end Value

/-! ## Documents -/

/-- The documents differ at most in the order of members, and no object in them has a name
twice. -/
def Document.SameUpToOrder (d d' : Document) : Prop := d.toValue.SameUpToOrder d'.toValue

namespace Document.SameUpToOrder

variable {d d' : Document}

lemma ofValue {v v' : Value} (h : v.SameUpToOrder v') :
    (Document.ofValue v).SameUpToOrder (Document.ofValue v') := by
  obtain ⟨hreordered, hdistinct⟩ := h
  cases hdistinct with
  | object hnodup hmembers =>
    cases hreordered with
    | refl => exact ⟨.refl _, .object hnodup hmembers⟩
    | object hperm hrelated => exact ⟨.object hperm hrelated, .object hnodup hmembers⟩
  | _ =>
    -- what is no object is a document without members
    have hempty : (Value.object []).NamesDistinct := .object List.nodup_nil (by simp)
    cases hreordered <;> exact ⟨.refl _, hempty⟩

lemma get (h : d.SameUpToOrder d') (name : Text) : (d.get name).SameUpToOrder (d'.get name) :=
  Value.SameUpToOrder.get h name

lemma has_eq (h : d.SameUpToOrder d') (name : Text) : d.has name = d'.has name :=
  Value.SameUpToOrder.has_eq h name

lemma lookup (h : d.SameUpToOrder d') (path : Text) :
    (d.lookup path).SameUpToOrder (d'.lookup path) :=
  Value.SameUpToOrder.foldl_get h _

lemma string?_eq (h : d.SameUpToOrder d') (name : Text) : d.string? name = d'.string? name :=
  (h.get name).reordered.text?_eq

lemma someText?_eq (h : d.SameUpToOrder d') (name : Text) :
    d.someText? name = d'.someText? name := by
  unfold Document.someText?
  rw [h.string?_eq]

lemma types_eq (h : d.SameUpToOrder d') : d.types = d'.types :=
  (h.get "@type").reordered.typeNames_eq

lemma primaryType_eq (h : d.SameUpToOrder d') : d.primaryType = d'.primaryType := by
  unfold Document.primaryType
  rw [h.types_eq]

/-- The order of members shows in the list of a document's texts, and only in its order. -/
lemma strings_perm (h : d.SameUpToOrder d') : d.strings.Perm d'.strings := by
  obtain ⟨ms⟩ := d
  obtain ⟨ms'⟩ := d'
  obtain ⟨hreordered, -⟩ := h
  unfold Document.strings
  cases hreordered with
  | refl => exact .refl _
  | object hperm hrelated =>
    rw [← hrelated.filterMap_text?_eq fun _ _ hvalue => hvalue.text?_eq]
    exact hperm.filterMap _

end Document.SameUpToOrder

end StructuredData
