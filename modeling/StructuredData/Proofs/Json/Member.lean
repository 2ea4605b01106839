import Mathlib.Tactic.Common
import StructuredData.Document
import StructuredData.Format

/-!
# Members of values

The accessors of documents read what is not there as `null`.  Here the same is said by relations
that do without a default: `HasMember`, that an object has a member, and on top of it that a member
is supplied, that it has a format if it is supplied, and that it lists objects with certain members.
A value that is no object has no members.  Each accessor is proved to agree with its relation.
-/

namespace StructuredData

namespace Value

/-- The value is an object, and one of its members has the given name and value. -/
def HasMember (v : Value) (name : Text) (w : Value) : Prop :=
  ∃ ms, v = .object ms ∧ Members.get? name ms = some w

/-- The value is an object with a member of that name that counts as supplied. -/
def Supplies (v : Value) (name : Text) : Prop :=
  ∃ w, v.HasMember name w ∧ w.isPresent = true

/-- The member of that name, if there is one that counts as supplied, has the format. -/
def Fits (v : Value) (name : Text) (f : Format) : Prop :=
  ∀ w, v.HasMember name w → w.isPresent = true → w.hasFormat f = true

/-- The member of that name, if it is a list, lists objects only, and each of them supplies all the
properties. -/
def ListsObjectsWith (v : Value) (name : Text) (properties : List Text) : Prop :=
  ∀ items, v.HasMember name (.array items) → ∀ item ∈ items, ∀ p ∈ properties, item.Supplies p

variable {v w : Value} {name : Text}

lemma hasMember_iff_members : v.HasMember name w ↔ v.members.get? name = some w := by
  unfold HasMember
  cases v <;> simp [members, Members.get?]

/-- A name has one value at most. -/
lemma HasMember.unique {w' : Value} (h : v.HasMember name w) (h' : v.HasMember name w') :
    w = w' := by
  rw [hasMember_iff_members] at h h'
  exact Option.some.inj (h.symm.trans h')

lemma get_eq_iff (hw : w ≠ .null) : v.get name = w ↔ v.HasMember name w := by
  rw [hasMember_iff_members]
  unfold get
  cases v.members.get? name with
  | none => simp [Ne.symm hw]
  | some found => simp

lemma ne_null_of_isPresent (h : v.isPresent = true) : v ≠ .null := by
  rintro rfl
  cases h

/-- What is supplied is a member, for what is missing reads as `null`. -/
lemma has_iff_supplies : v.has name = true ↔ v.Supplies name := by
  unfold has Supplies
  simp only [hasMember_iff_members]
  unfold get
  cases v.members.get? name with
  | none => simp [isPresent]
  | some found => simp

instance : Decidable (v.Supplies name) := decidable_of_iff _ has_iff_supplies

/-- What holds of `null` holds of every member of that name as soon as it holds of what is read. -/
lemma forall_hasMember_iff {P : Value → Prop} (hnull : P .null) :
    (∀ w, v.HasMember name w → P w) ↔ P (v.get name) := by
  simp only [hasMember_iff_members]
  unfold get
  cases v.members.get? name with
  | none => simp [hnull]
  | some found => simp

lemma fits_iff {f : Format} :
    v.Fits name f ↔ ((v.get name).isPresent = true → (v.get name).hasFormat f = true) := by
  unfold Fits
  rw [forall_hasMember_iff (by simp [isPresent])]

instance {f : Format} : Decidable (v.Fits name f) := decidable_of_iff _ fits_iff.symm

lemma listsObjectsWith_iff {properties : List Text} :
    v.ListsObjectsWith name properties ↔ ∀ items, v.get name = .array items →
      ∀ item ∈ items, ∀ p ∈ properties, item.Supplies p := by
  unfold ListsObjectsWith
  refine forall_congr' fun items => ?_
  rw [get_eq_iff (by simp)]

end Value

/-- The top-level properties of a document are the members of the value that it is read from. -/
lemma Document.get_ofValue (v : Value) (name : Text) : (Document.ofValue v).get name = v.get name :=
  rfl

lemma Document.has_ofValue {v : Value} {name : Text} :
    (Document.ofValue v).has name = true ↔ v.Supplies name := by
  rw [← Value.has_iff_supplies]
  rfl

end StructuredData
