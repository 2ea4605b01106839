import Mathlib.Tactic.Common
import StructuredData.Text.Basic

/-!
# Texts cut at a separator

The parts of a text hold no separator, and all that the text holds besides.  Where a text goes on
behind a separator, its parts are those in front of the separator and those behind it
(`splitOn_append`), and so two texts that agree, each cut at its first separator, agree in both
parts (`append_separator_inj`).  Parts put together hold their own code points and those of what is
put between them.
-/

namespace StructuredData

namespace Text

variable {t part : Text} {c sep : CodePoint}

lemma splitOn_ne_nil (sep : CodePoint) (t : Text) : splitOn sep t ≠ [] := by
  unfold splitOn
  split
  · exact List.cons_ne_nil _ _
  · split_ifs
    · exact List.cons_ne_nil _ _
    · split <;> exact List.cons_ne_nil _ _

/-- What is no separator comes to the first of the parts that are there without it. -/
lemma exists_splitOn_cons (h : c ≠ sep) (rest : Text) :
    ∃ first parts, splitOn sep rest = first :: parts ∧
      splitOn sep (c :: rest) = (c :: first) :: parts := by
  obtain ⟨first, parts, hparts⟩ := List.exists_cons_of_ne_nil (splitOn_ne_nil sep rest)
  refine ⟨first, parts, hparts, ?_⟩
  rw [splitOn, if_neg h, hparts]

/-! ## What the parts hold -/

lemma notMem_of_mem_splitOn (h : part ∈ splitOn sep t) : sep ∉ part := by
  induction t generalizing part with
  | nil =>
    obtain rfl := List.mem_singleton.mp h
    exact List.not_mem_nil
  | cons c rest ih =>
    by_cases hc : c = sep
    · rw [splitOn, if_pos hc] at h
      rcases List.mem_cons.mp h with rfl | h
      · exact List.not_mem_nil
      · exact ih h
    · obtain ⟨first, parts, hrest, hcons⟩ := exists_splitOn_cons hc rest
      rw [hrest] at ih
      rw [hcons] at h
      rcases List.mem_cons.mp h with rfl | h
      · rw [List.mem_cons, not_or]
        exact ⟨Ne.symm hc, ih List.mem_cons_self⟩
      · exact ih (List.mem_cons_of_mem _ h)

/-- The parts of a text hold what it holds, but for the separators. -/
lemma exists_mem_splitOn_iff (hne : c ≠ sep) : (∃ part ∈ splitOn sep t, c ∈ part) ↔ c ∈ t := by
  induction t with
  | nil => simp [splitOn]
  | cons d rest ih =>
    by_cases hd : d = sep
    · subst hd
      rw [splitOn, if_pos rfl]
      simp [ih, hne]
    · obtain ⟨first, parts, hrest, hcons⟩ := exists_splitOn_cons hd rest
      rw [hrest] at ih
      simp only [List.mem_cons, exists_eq_or_imp] at ih
      rw [hcons]
      simp only [List.mem_cons, exists_eq_or_imp, or_assoc, ih]

/-! ## Texts put together -/

lemma splitOn_of_notMem (h : sep ∉ t) : splitOn sep t = [t] := by
  induction t with
  | nil => rfl
  | cons c rest ih =>
    rw [List.mem_cons, not_or] at h
    rw [splitOn, if_neg (Ne.symm h.1), ih h.2]

/-- A separator between two texts keeps their parts apart. -/
lemma splitOn_append (t rest : Text) :
    splitOn sep (t ++ sep :: rest) = splitOn sep t ++ splitOn sep rest := by
  induction t with
  | nil => simp [splitOn]
  | cons c t ih =>
    by_cases hc : c = sep
    · rw [List.cons_append, splitOn, if_pos hc, splitOn, if_pos hc, ih, List.cons_append]
    · -- `c` comes to the first part of `t`, which is there as no text is cut into nothing
      obtain ⟨first, parts, ht, hcons⟩ := exists_splitOn_cons hc t
      rw [List.cons_append, splitOn, if_neg hc, ih, ht, hcons]
      rfl

lemma splitOn_append_of_notMem (h : sep ∉ t) (rest : Text) :
    splitOn sep (t ++ sep :: rest) = t :: splitOn sep rest := by
  rw [splitOn_append, splitOn_of_notMem h, List.singleton_append]

/-- Two texts that agree, each cut at its first separator, agree in both parts. -/
lemma append_separator_inj {front front' back back' : Text} (hfront : sep ∉ front)
    (hfront' : sep ∉ front') (h : front ++ sep :: back = front' ++ sep :: back') :
    front = front' ∧ back = back' := by
  have hparts := congrArg (splitOn sep) h
  rw [splitOn_append_of_notMem hfront, splitOn_append_of_notMem hfront'] at hparts
  obtain ⟨rfl, -⟩ := List.cons.inj hparts
  exact ⟨rfl, (List.cons.inj (List.append_cancel_left h)).2⟩

/-! ## Parts put together -/

lemma mem_join_of_mem {joint : Text} {parts : List Text} (hpart : part ∈ parts) (hc : c ∈ part) :
    c ∈ join joint parts := by
  induction parts with
  | nil => cases hpart
  | cons first rest ih =>
    cases rest with
    | nil =>
      obtain rfl := List.mem_singleton.mp hpart
      rwa [join, List.intercalate_singleton]
    | cons next rest =>
      rw [join, List.intercalate_cons_cons]
      rcases List.mem_cons.mp hpart with rfl | hpart
      · exact List.mem_append_left _ (List.mem_append_left _ hc)
      · exact List.mem_append_right _ (ih hpart)

lemma mem_of_mem_join {joint : Text} {parts : List Text} (hc : c ∈ join joint parts) :
    c ∈ joint ∨ ∃ part ∈ parts, c ∈ part := by
  induction parts with
  | nil => cases hc
  | cons first rest ih =>
    cases rest with
    | nil =>
      rw [join, List.intercalate_singleton] at hc
      exact .inr ⟨first, List.mem_cons_self, hc⟩
    | cons next rest =>
      rw [join, List.intercalate_cons_cons, List.append_assoc, List.mem_append,
        List.mem_append] at hc
      rcases hc with h | h | h
      · exact .inr ⟨first, List.mem_cons_self, h⟩
      · exact .inl h
      · refine (ih h).imp_right ?_
        rintro ⟨part, hpart, hc⟩
        exact ⟨part, List.mem_cons_of_mem _ hpart, hc⟩

end Text

end StructuredData
