import StructuredData.Proofs.Json.Nesting
import StructuredData.Proofs.Outcome
import StructuredData.Submission

/-!
# Reading one text in two places

How deep a text may nest decides only whether it is refused for its depth: what is read up to some
depth is read up to any greater one, and so is every other fault (`read_of_le`).  Hence two places
that read up to different depths read a text alike unless its nesting lies between the two depths
(`Submission.parsed?_congr`).

The places do differ: a pool starts its tasks afresh, and so they read deeper than a caller who is
himself far down (`Depths.hundredDown`).
-/

namespace StructuredData

namespace Json

/-- The second result is the first one, unless that is the refusal of a text for its depth. -/
def SameUnlessDeep {α : Type} (r r' : Except Fault α) : Prop :=
  (∃ container, r = .error (.tooDeep container)) ∨ r' = r

namespace SameUnlessDeep

variable {α β : Type} {r r' : Except Fault α}

lemma refl (r : Except Fault α) : SameUnlessDeep r r := .inr rfl

lemma bind {f f' : α → Except Fault β} (h : SameUnlessDeep r r')
    (hf : ∀ a, SameUnlessDeep (f a) (f' a)) : SameUnlessDeep (r >>= f) (r' >>= f') := by
  obtain ⟨container, rfl⟩ | rfl := h
  · exact .inl ⟨container, rfl⟩
  · cases r' with
    | ok a => exact hf a
    | error fault => exact .refl _

end SameUnlessDeep

/-- Up to a greater depth the readers, with so much fuel, give the same or get further. -/
structure ReadersGrow (endPosition fuel : ℕ) : Prop where
  value : ∀ (depth more : ℕ) (ts : List PlacedToken), SameUnlessDeep
    (readValue endPosition fuel depth ts) (readValue endPosition fuel (depth + more) ts)
  items : ∀ (depth more : ℕ) (ts : List PlacedToken), SameUnlessDeep
    (readItems endPosition fuel depth ts) (readItems endPosition fuel (depth + more) ts)
  members : ∀ (depth more : ℕ) (ts : List PlacedToken), SameUnlessDeep
    (readMembers endPosition fuel depth ts) (readMembers endPosition fuel (depth + more) ts)

variable {endPosition fuel : ℕ} {t : Text} {v : Value} {depth depth' : ℕ}

lemma readValue_grows (ih : ReadersGrow endPosition fuel) (depth more : ℕ)
    (ts : List PlacedToken) : SameUnlessDeep
      (readValue endPosition (fuel + 1) depth ts)
      (readValue endPosition (fuel + 1) (depth + more) ts) := by
  rw [readValue.eq_def, readValue.eq_def]
  dsimp only
  split
  case h_5 =>
    cases depth with
    | zero => exact .inl ⟨.array, rfl⟩
    | succ depth =>
      rw [Nat.add_right_comm]
      dsimp only
      split
      · exact .refl _
      · exact (ih.items depth more _).bind fun _ => .refl _
  case h_6 =>
    cases depth with
    | zero => exact .inl ⟨.object, rfl⟩
    | succ depth =>
      rw [Nat.add_right_comm]
      dsimp only
      split
      · exact .refl _
      · exact (ih.members depth more _).bind fun _ => .refl _
  all_goals exact .refl _

lemma readItems_grows (ih : ReadersGrow endPosition fuel) (depth more : ℕ)
    (ts : List PlacedToken) : SameUnlessDeep
      (readItems endPosition (fuel + 1) depth ts)
      (readItems endPosition (fuel + 1) (depth + more) ts) := by
  rw [readItems.eq_def, readItems.eq_def]
  dsimp only
  refine (ih.value depth more ts).bind ?_
  rintro ⟨v, rest⟩
  dsimp only
  split
  · exact .refl _
  · exact (ih.items depth more _).bind fun _ => .refl _
  · exact .refl _

lemma readMembers_grows (ih : ReadersGrow endPosition fuel) (depth more : ℕ)
    (ts : List PlacedToken) : SameUnlessDeep
      (readMembers endPosition (fuel + 1) depth ts)
      (readMembers endPosition (fuel + 1) (depth + more) ts) := by
  rw [readMembers.eq_def, readMembers.eq_def]
  dsimp only
  split
  · exact .refl _
  · refine (ih.value depth more _).bind ?_
    rintro ⟨v, rest⟩
    dsimp only
    split
    · exact .refl _
    · exact (ih.members depth more _).bind fun _ => .refl _
    · exact .refl _
  · exact .refl _
  · exact .refl _

lemma readersGrow (endPosition fuel : ℕ) : ReadersGrow endPosition fuel := by
  induction fuel with
  | zero => exact ⟨fun _ _ _ => .refl _, fun _ _ _ => .refl _, fun _ _ _ => .refl _⟩
  | succ fuel ih => exact ⟨readValue_grows ih, readItems_grows ih, readMembers_grows ih⟩

/-! ## Texts -/

/-- Up to a greater depth a text is read in the same way, unless it was refused for its depth. -/
theorem read_of_le (h : depth ≤ depth') (t : Text) :
    SameUnlessDeep (read depth t) (read depth' t) := by
  obtain ⟨more, rfl⟩ := Nat.exists_eq_add_of_le h
  unfold read
  split_ifs
  · exact .refl _
  · dsimp only
    exact ((readersGrow _ _).value depth more _).bind fun _ => .refl _

lemma read_eq_ok_of_le (h : depth ≤ depth') (hread : read depth t = .ok v) :
    read depth' t = .ok v := by
  obtain ⟨container, hdeep⟩ | hsame := read_of_le h t
  · rw [hread] at hdeep
    cases hdeep
  · rw [hsame, hread]

/-- A text that nests deep enough for two places is read in them alike. -/
lemma read_congr (h : nesting t ≤ depth) (h' : nesting t ≤ depth') :
    read depth t = read depth' t := by
  wlog hle : depth ≤ depth' generalizing depth depth'
  · exact (this h' h (Nat.le_of_not_le hle)).symm
  obtain hdeep | hsame := read_of_le hle t
  · exact absurd ((read_eq_tooDeep_iff depth t).mp hdeep) (not_lt.mpr h)
  · exact hsame.symm

lemma read?_eq_none_of_lt (h : depth < nesting t) : read? depth t = none := by
  obtain ⟨container, hdeep⟩ := (read_eq_tooDeep_iff depth t).mpr h
  unfold read?
  rw [hdeep]
  rfl

end Json

/-! ## Submissions -/

namespace Submission

variable {s : Submission} {depth depth' : ℕ}

/-- The nesting of a submission's text; there is none where the document is no text. -/
def nesting (s : Submission) : ℕ := (s.schema.text?.map Json.nesting).getD 0

/-- Two places read a submission alike if its text nests deep enough for both or for neither. -/
theorem parsed?_congr (h : s.nesting ≤ depth ↔ s.nesting ≤ depth') :
    s.parsed? depth = s.parsed? depth' := by
  unfold nesting at h
  unfold parsed?
  cases htext : s.schema.text? with
  | none => rfl
  | some t =>
    rw [htext, Option.map_some, Option.getD_some] at h
    rw [Option.bind_some, Option.bind_some]
    by_cases hdepth : Json.nesting t ≤ depth
    · unfold Json.read?
      rw [Json.read_congr hdepth (h.mp hdepth)]
    · have hdepth' := fun h' => hdepth (h.mpr h')
      rw [Json.read?_eq_none_of_lt (Nat.lt_of_not_le hdepth),
        Json.read?_eq_none_of_lt (Nat.lt_of_not_le hdepth')]

lemma parsed?_eq_none_of_lt (h : depth < s.nesting) : s.parsed? depth = none := by
  unfold nesting at h
  unfold parsed?
  cases htext : s.schema.text? with
  | none => rfl
  | some t =>
    rw [htext, Option.map_some, Option.getD_some] at h
    exact Json.read?_eq_none_of_lt h

/-- What is not read in one place is not read in another, unless it nests too deep for the one place
alone. -/
lemma parsed?_eq_none_of_not_between (hs : s.parsed? depth = none)
    (h : ¬ (depth < s.nesting ∧ s.nesting ≤ depth')) : s.parsed? depth' = none := by
  by_cases hdepth : s.nesting ≤ depth
  · by_cases hdepth' : s.nesting ≤ depth'
    · rw [← parsed?_congr (iff_of_true hdepth hdepth')]
      exact hs
    · exact parsed?_eq_none_of_lt (not_le.mp hdepth')
  · exact parsed?_eq_none_of_lt (not_le.mp fun hdepth' => h ⟨not_le.mp hdepth, hdepth'⟩)

end Submission

/-! ## A caller far down -/

/-- The depths where a hundred of the thousand calls that may be open at once are the caller's. -/
def Depths.hundredDown : Depths := ⟨894, 890, 988, 893⟩

/-- A list in a list, and so on, down to an empty one. -/
def Text.nestedLists (depth : ℕ) : Text :=
  List.replicate depth (CodePoint.ofChar '[') ++ List.replicate depth (CodePoint.ofChar ']')

end StructuredData
