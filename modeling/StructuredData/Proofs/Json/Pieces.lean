import StructuredData.Proofs.Files.WrittenValues

/-!
# Values in pieces

The pieces in which a value is written to a file, put together, are the text of the value
(`flatten_pieces`).  So the value can be written to the end if and only if its text can be encoded.

Where in a larger value a value stands makes a difference only for the blanks around it, and so a
value that is part of another one can be encoded if the other one can (`IsEncodable.of_array`,
`IsEncodable.of_object`).
-/

namespace StructuredData

/-- What holds of a container if it holds of all that it contains, and holds of all other values,
holds of every value. -/
@[elab_as_elim]
lemma Value.induction {P : Value → Prop} (null : P .null) (bool : ∀ b, P (.bool b))
    (number : ∀ n, P (.number n)) (string : ∀ t, P (.string t))
    (array : ∀ items, (∀ item ∈ items, P item) → P (.array items))
    (object : ∀ ms, (∀ m ∈ ms, P m.2) → P (.object ms)) (v : Value) : P v := by
  refine @Value.rec P (fun items => ∀ item ∈ items, P item) (fun ms => ∀ m ∈ ms, P m.2)
    (fun m => P m.2) null bool number string array object ?_ ?_ ?_ ?_ ?_ v
  · exact List.forall_mem_nil _
  · exact fun item items hitem hitems => List.forall_mem_cons.mpr ⟨hitem, hitems⟩
  · exact List.forall_mem_nil _
  · exact fun m ms hm hms => List.forall_mem_cons.mpr ⟨hm, hms⟩
  · exact fun _ _ h => h

namespace Json

variable {items : List Value} {ms : Members} {v : Value} {c : CodePoint}

/-! ## The text of the pieces -/

lemma flatten_withFront (front : Text) (v : Value) (parts : List Text) :
    (withFront front v parts).flatten = front ++ parts.flatten := by
  cases v <;> simp [withFront]

lemma flatten_itemPieces (h : ∀ item ∈ items, ∀ level,
      (pieces level item).flatten = writeLines false level item) (level : ℕ) (front : Text) :
    (itemPieces level front items).flatten =
      items.head?.elim [] fun _ => front ++
        Text.join ("," ++ lineStart level) (writeLinesItems false level items) := by
  induction items generalizing front with
  | nil => rfl
  | cons item rest ih =>
    obtain ⟨hitem, hrest⟩ := List.forall_mem_cons.mp h
    rw [itemPieces, List.flatten_append, flatten_withFront, hitem, ih hrest]
    cases rest with
    | nil => simp [writeLinesItems, Text.join]
    | cons next rest =>
      simp [writeLinesItems, Text.join, List.intercalate_cons_cons]

lemma flatten_memberPieces (h : ∀ m ∈ ms, ∀ level,
      (pieces level m.2).flatten = writeLines false level m.2) (level : ℕ) (front : Text) :
    (memberPieces level front ms).flatten =
      ms.head?.elim [] fun _ => front ++
        Text.join ("," ++ lineStart level) (writeLinesMembers false level ms) := by
  induction ms generalizing front with
  | nil => rfl
  | cons m rest ih =>
    obtain ⟨hm, hrest⟩ := List.forall_mem_cons.mp h
    rw [memberPieces, List.flatten_append, List.flatten_append, hm, ih hrest]
    cases rest with
    | nil => simp [writeLinesMembers, Text.join]
    | cons next rest =>
      simp [writeLinesMembers, Text.join, List.intercalate_cons_cons]

/-- The pieces of a value are the text of the value, cut up. -/
theorem flatten_pieces (v : Value) (level : ℕ) :
    (pieces level v).flatten = writeLines false level v := by
  induction v using Value.induction generalizing level with
  | null | bool | number | string => exact List.append_nil _
  | array items ih =>
    cases items with
    | nil => rfl
    | cons item rest =>
      rw [pieces, List.flatten_append, flatten_itemPieces fun item hitem => ih item hitem,
        writeLines]
      simp [block, writeLinesItems]
  | object ms ih =>
    cases ms with
    | nil => rfl
    | cons m rest =>
      rw [pieces, List.flatten_append, List.flatten_cons,
        flatten_memberPieces fun m hm => ih m hm, writeLines]
      simp [block, writeLinesMembers]

/-! ## Values that can be encoded -/

/-- No half of a surrogate pair stands in the text of the value. -/
def IsEncodable (v : Value) : Prop := ∀ c ∈ pretty v, c.isSurrogate = false

lemma isSurrogate_of_isLayout (h : IsLayout c) : c.isSurrogate = false := by
  unfold IsLayout at h
  simp [CodePoint.isSurrogate]
  omega

lemma encodeAll_pieces (h : IsEncodable v) :
    Utf8.encodeAll (pieces 0 v) = (Utf8.octets (pretty v), none) := by
  have hpieces : ∀ piece ∈ pieces 0 v, ∀ c ∈ piece, c.isSurrogate = false := by
    intro piece hpiece c hc
    refine h c ?_
    rw [pretty, ← flatten_pieces]
    exact List.mem_flatten_of_mem hpiece hc
  rw [Utf8.encodeAll_of hpieces, flatten_pieces]
  rfl

lemma isEncodable_of_encodeAll (h : (Utf8.encodeAll (pieces 0 v)).2 = none) : IsEncodable v := by
  intro c hc
  rw [pretty, ← flatten_pieces] at hc
  obtain ⟨piece, hpiece, hc⟩ := List.mem_flatten.mp hc
  exact Utf8.encodeAll_snd_eq_none_iff.mp h piece hpiece c hc

/-- The parts of a container stand in its text. -/
lemma mem_block {opening closing part : Text} {level : ℕ} {parts : List Text}
    (hpart : part ∈ parts) (hc : c ∈ part) : c ∈ block opening closing level parts := by
  have hne : parts.isEmpty = false := by
    cases parts with
    | nil => cases hpart
    | cons => rfl
  have hjoin : c ∈ Text.join ("," ++ lineStart (level + 1)) parts := Text.mem_join_of_mem hpart hc
  unfold block
  rw [hne]
  simp [hjoin]

/-- Half of a surrogate pair in a container stands in one of the parts. -/
lemma exists_part_of_isSurrogate {opening closing : Text} {level : ℕ} {parts : List Text}
    (hopening : ∀ c ∈ opening, c.isSurrogate = false)
    (hclosing : ∀ c ∈ closing, c.isSurrogate = false) (hc : c.isSurrogate = true)
    (h : c ∈ block opening closing level parts) : ∃ part ∈ parts, c ∈ part := by
  have hblock : ∀ c ∈ block opening closing level parts,
      c.isSurrogate = false ∨ ∃ part ∈ parts, c ∈ part :=
    forall_mem_block (fun c hlayout => .inl (isSurrogate_of_isLayout hlayout))
      (fun c hmem => .inl (hopening c hmem)) (fun c hmem => .inl (hclosing c hmem))
      fun part hpart c hmem => .inr ⟨part, hpart, hmem⟩
  exact (hblock c h).resolve_left (by simp [hc])

/-- Half of a surrogate pair in the text of a value stands there wherever the value itself
stands. -/
lemma mem_writeLines_of_isSurrogate (hc : c.isSurrogate = true) {level : ℕ} (level' : ℕ)
    (h : c ∈ writeLines false level v) : c ∈ writeLines false level' v := by
  induction v using Value.induction generalizing level level' with
  | null | bool | number | string => exact h
  | array items ih =>
    rw [writeLines, writeLinesItems_eq] at h ⊢
    obtain ⟨part, hpart, hmem⟩ := exists_part_of_isSurrogate (by decide) (by decide) hc h
    obtain ⟨item, hitem, rfl⟩ := List.mem_map.mp hpart
    exact mem_block (List.mem_map_of_mem hitem) (ih item hitem (level' + 1) hmem)
  | object ms ih =>
    rw [writeLines, writeLinesMembers_eq] at h ⊢
    obtain ⟨part, hpart, hmem⟩ := exists_part_of_isSurrogate (by decide) (by decide) hc h
    obtain ⟨m, hm, rfl⟩ := List.mem_map.mp hpart
    refine mem_block (List.mem_map_of_mem hm) ?_
    rcases List.mem_append.mp hmem with hfront | hvalue
    · exact List.mem_append_left _ hfront
    · exact List.mem_append_right _ (ih m hm (level' + 1) hvalue)

/-- The elements of an array that can be encoded can be. -/
lemma IsEncodable.of_array (h : IsEncodable (.array items)) {item : Value} (hitem : item ∈ items) :
    IsEncodable item := by
  intro c hmem
  by_contra hc
  rw [Bool.not_eq_false] at hc
  have harray : c ∈ pretty (.array items) := by
    rw [pretty, writeLines, writeLinesItems_eq]
    exact mem_block (List.mem_map_of_mem hitem) (mem_writeLines_of_isSurrogate hc 1 hmem)
  simp [h c harray] at hc

/-- The values of an object that can be encoded can be. -/
lemma IsEncodable.of_object (h : IsEncodable (.object ms)) {m : Text × Value} (hm : m ∈ ms) :
    IsEncodable m.2 := by
  intro c hmem
  by_contra hc
  rw [Bool.not_eq_false] at hc
  have hobject : c ∈ pretty (.object ms) := by
    rw [pretty, writeLines, writeLinesMembers_eq]
    exact mem_block (List.mem_map_of_mem hm)
      (List.mem_append_right _ (mem_writeLines_of_isSurrogate hc 1 hmem))
  simp [h c hobject] at hc

end Json

end StructuredData
