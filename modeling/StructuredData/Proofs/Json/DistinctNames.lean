import Mathlib.Data.List.Nodup
import Mathlib.Data.Option.Basic
import Mathlib.Tactic.Common
import StructuredData.Json.Value

/-!
# Objects name each member once

A member that is repeated replaces the earlier one of its name, so that the members put together for
an object have no name twice.  A member is then found by its name wherever it stands, which is what
`get?_eq_of_perm` says.
-/

namespace StructuredData

namespace Members

variable {name : Text} {value : Value} {ms ms' : Members}

/-! ## Members of one object -/

lemma map_fst_put :
    (put name value ms).map Prod.fst =
      if name ∈ ms.map Prod.fst then ms.map Prod.fst else ms.map Prod.fst ++ [name] := by
  induction ms with
  | nil => simp [put]
  | cons m rest ih =>
    rw [put]
    by_cases hm : m.1 = name
    · simp [hm]
    · rw [if_neg hm, List.map_cons, ih]
      by_cases hrest : name ∈ rest.map Prod.fst <;> simp_all [Ne.symm hm]

lemma nodup_put (h : (ms.map Prod.fst).Nodup) : ((put name value ms).map Prod.fst).Nodup := by
  rw [map_fst_put]
  split_ifs with hmem
  · exact h
  · refine List.nodup_append.mpr ⟨h, List.nodup_singleton name, ?_⟩
    rintro a ha b hb rfl
    exact hmem (List.mem_singleton.mp hb ▸ ha)

lemma mem_put {m : Text × Value} (h : m ∈ put name value ms) : m = (name, value) ∨ m ∈ ms := by
  induction ms with
  | nil => exact .inl (List.mem_singleton.mp h)
  | cons n rest ih =>
    rw [put] at h
    split_ifs at h
    · rcases List.mem_cons.mp h with rfl | h
      · exact .inl rfl
      · exact .inr (List.mem_cons_of_mem _ h)
    · rcases List.mem_cons.mp h with rfl | h
      · exact .inr List.mem_cons_self
      · exact (ih h).imp_right (List.mem_cons_of_mem _)

/-- What holds of the members that are there and of one that is put there holds of those that it
leaves; so members put one after another keep what each of them keeps. -/
lemma ofList_induction {P : Members → Prop} (hnil : P []) (row : List (Text × Value))
    (hput : ∀ ms, ∀ m ∈ row, P ms → P (put m.1 m.2 ms)) : P (ofList row) := by
  unfold ofList
  generalize hstart : ([] : Members) = start
  rw [hstart] at hnil
  clear hstart
  induction row generalizing start with
  | nil => exact hnil
  | cons m rest ih =>
    refine ih (fun ms n hn => hput ms n (List.mem_cons_of_mem _ hn)) _ ?_
    exact hput _ m List.mem_cons_self hnil

lemma nodup_ofList (row : List (Text × Value)) : ((ofList row).map Prod.fst).Nodup :=
  ofList_induction (P := fun ms => (ms.map Prod.fst).Nodup) List.nodup_nil row
    fun _ _ _ h => nodup_put h

lemma mem_ofList {row : List (Text × Value)} {m : Text × Value} (h : m ∈ ofList row) : m ∈ row := by
  refine ofList_induction (P := fun ms => ∀ m ∈ ms, m ∈ row) (by simp) row ?_ m h
  intro ms n hn ih m hm
  rcases mem_put hm with rfl | hm
  · exact hn
  · exact ih m hm

lemma mem_of_get? (h : ms.get? name = some value) : (name, value) ∈ ms := by
  induction ms with
  | nil => cases h
  | cons m rest ih =>
    rw [get?] at h
    split_ifs at h with hm
    · obtain rfl := Option.some.inj h
      exact hm ▸ List.mem_cons_self
    · exact List.mem_cons_of_mem _ (ih h)

lemma get?_eq_some_iff (h : (ms.map Prod.fst).Nodup) :
    get? name ms = some value ↔ (name, value) ∈ ms := by
  induction ms with
  | nil => simp [get?]
  | cons m rest ih =>
    obtain ⟨hnotin, hrest⟩ := List.nodup_cons.mp h
    by_cases hm : m.1 = name
    · have hother : (name, value) ∉ rest := by
        intro hmem
        exact hnotin (hm ▸ List.mem_map_of_mem (f := Prod.fst) hmem)
      simp [get?, hm, hother, Prod.ext_iff, eq_comm]
    · have hne : (name, value) ≠ m := fun heq => hm (heq ▸ rfl)
      simp [get?, hm, hne, ih hrest]

/-- Members with distinct names are found whatever their order. -/
lemma get?_eq_of_perm (h : (ms.map Prod.fst).Nodup) (hperm : ms.Perm ms') (name : Text) :
    get? name ms = get? name ms' := by
  have h' : (ms'.map Prod.fst).Nodup := (hperm.map Prod.fst).nodup_iff.mp h
  ext value
  rw [get?_eq_some_iff h, get?_eq_some_iff h', hperm.mem_iff]

end Members

/-! ## Values -/

/-- No object in the value, at any depth, has a name twice. -/
inductive Value.NamesDistinct : Value → Prop
  | null : NamesDistinct .null
  | bool (b : Bool) : NamesDistinct (.bool b)
  | number (n : Number) : NamesDistinct (.number n)
  | string (t : Text) : NamesDistinct (.string t)
  | array {items : List Value} (h : ∀ item ∈ items, NamesDistinct item) :
      NamesDistinct (.array items)
  | object {ms : Members} (hnodup : (ms.map Prod.fst).Nodup)
      (h : ∀ m ∈ ms, NamesDistinct m.2) : NamesDistinct (.object ms)

end StructuredData
