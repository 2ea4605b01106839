import Mathlib.Data.List.Chain
import StructuredData.Proofs.Json.DistinctNames
import StructuredData.Proofs.Json.Reading

/-!
# Halves of surrogate pairs in values

A string can name a half of a surrogate pair by an escape, and if a first half is followed by a
second half the reader takes both for the code point of the pair.  So where a text itself holds no
halves, no string that is read from it has the two halves of a pair next to each other, and neither
has a value (`isJoined_of_read`).
-/

namespace StructuredData

/-- The text holds no first half of a surrogate pair with a second half behind it. -/
def Text.IsJoined (t : Text) : Prop :=
  t.IsChain fun a b => Json.isHighUnit a.val = true → Json.isLowUnit b.val = false

instance (t : Text) : Decidable t.IsJoined :=
  inferInstanceAs (Decidable (t.IsChain _))

/-- No text in the value, names of members included, holds the two halves of a surrogate pair next
to each other. -/
inductive Value.IsJoined : Value → Prop
  | null : IsJoined .null
  | bool (b : Bool) : IsJoined (.bool b)
  | number (n : Number) : IsJoined (.number n)
  | string {t : Text} (ht : t.IsJoined) : IsJoined (.string t)
  | array {items : List Value} (h : ∀ item ∈ items, IsJoined item) : IsJoined (.array items)
  | object {ms : Members} (hnames : ∀ m ∈ ms, m.1.IsJoined) (h : ∀ m ∈ ms, IsJoined m.2) :
      IsJoined (.object ms)

namespace Value.IsJoined

lemma text {t : Text} (h : (Value.string t).IsJoined) : t.IsJoined := by
  cases h with
  | string ht => exact ht

lemma items {items : List Value} (h : (Value.array items).IsJoined) :
    ∀ item ∈ items, item.IsJoined := by
  cases h with
  | array hitems => exact hitems

lemma members {ms : Members} (h : (Value.object ms).IsJoined) :
    ∀ m ∈ ms, m.1.IsJoined ∧ m.2.IsJoined := by
  cases h with
  | object hnames hms => exact fun m hm => ⟨hnames m hm, hms m hm⟩

end Value.IsJoined

namespace Json

variable {t s tail : Text} {v : Value}

lemma isSurrogate_of_isHighUnit {c : CodePoint} (h : isHighUnit c.val = true) :
    c.isSurrogate = true := by
  simp only [isHighUnit, CodePoint.isSurrogate, Bool.and_eq_true, decide_eq_true_eq] at h ⊢
  omega

lemma isSurrogate_of_isLowUnit {c : CodePoint} (h : isLowUnit c.val = true) :
    c.isSurrogate = true := by
  simp only [isLowUnit, CodePoint.isSurrogate, Bool.and_eq_true, decide_eq_true_eq] at h ⊢
  omega

lemma isHighUnit_ofNat (n : ℕ) : isHighUnit (CodePoint.ofNat n).val = isHighUnit n := by
  rw [CodePoint.val_ofNat]
  split_ifs with hn
  · rfl
  · simp [isHighUnit]
    omega

lemma isLowUnit_ofNat (n : ℕ) : isLowUnit (CodePoint.ofNat n).val = isLowUnit n := by
  rw [CodePoint.val_ofNat]
  split_ifs with hn
  · rfl
  · simp [isLowUnit]
    omega

/-- The code point of a pair is no half of one. -/
lemma isSurrogate_joinUnits (high low : ℕ) : (joinUnits high low).isSurrogate = false :=
  CodePoint.isSurrogate_ofNat (.inr (by omega))

/-- The escapes of one letter stand for no halves of surrogate pairs. -/
lemma isSurrogate_of_simpleEscape? {e c : CodePoint} (h : simpleEscape? e = some c) :
    c.isSurrogate = false := by
  unfold simpleEscape? at h
  split_ifs at h with hself
  · obtain rfl := Option.some.inj h
    simp only [Bool.or_eq_true, decide_eq_true_eq] at hself
    obtain (rfl | rfl) | rfl := hself <;> decide
  all_goals
    obtain rfl := Option.some.inj h
    decide

/-- An escape of four digits with something behind it is that of a second half if its number is
one. -/
lemma lowEscape?_of_hexUnit? {a b c d x : CodePoint} {n : ℕ} {rest : Text}
    (hunit : hexUnit? a b c d = some n) :
    lowEscape? (CodePoint.ofChar '\\' :: CodePoint.ofChar 'u' :: a :: b :: c :: d :: x :: rest) =
      if isLowUnit n then some n else none := by
  simp only [lowEscape?, decide_true, Bool.and_self, if_true, hunit, Option.filter_some]

/-- What is read from a text without halves of surrogate pairs is joined, and starts with a second
half only where the text starts with the escape of one. -/
lemma ReadsString.isJoined (ht : ∀ c ∈ t, c.isSurrogate = false) (h : ReadsString t s tail) :
    s.IsJoined ∧ ∀ c, s.head? = some c → isLowUnit c.val = true → lowEscape? t ≠ none := by
  -- a code point that is no half may stand in front of anything
  have hwhole : ∀ {c : CodePoint} {s t : Text}, c.isSurrogate = false → s.IsJoined →
      Text.IsJoined (c :: s) ∧
        ∀ d, (c :: s).head? = some d → isLowUnit d.val = true → lowEscape? t ≠ none := by
    intro c s t hc hs
    have hno : ¬ c.isSurrogate = true := by simp [hc]
    refine ⟨List.isChain_cons.mpr ⟨fun d _ hhigh => ?_, hs⟩, ?_⟩
    · exact absurd (isSurrogate_of_isHighUnit hhigh) hno
    · rintro d ⟨⟩ hlow
      exact absurd (isSurrogate_of_isLowUnit hlow) hno
  induction h with
  | close tail => exact ⟨List.isChain_nil, nofun⟩
  | self _ _ _ ih =>
    obtain ⟨hc, ht⟩ := List.forall_mem_cons.mp ht
    exact hwhole hc (ih ht).1
  | letter hc _ ih =>
    have hrest := (List.forall_mem_cons.mp (List.forall_mem_cons.mp ht).2).2
    exact hwhole (isSurrogate_of_simpleEscape? hc) (ih hrest).1
  | @unit a b c d x n t s tail hunit hnext h ih =>
    have hrest : ∀ e ∈ x :: t, e.isSurrogate = false :=
      fun e he => ht e (List.mem_append_right [_, _, a, b, c, d] he)
    obtain ⟨hs, hhead⟩ := ih hrest
    refine ⟨List.isChain_cons.mpr ⟨fun e he hhigh => ?_, hs⟩, ?_⟩
    · rw [isHighUnit_ofNat] at hhigh
      by_contra hlow
      exact hhead e (Option.mem_def.mp he) (Bool.not_eq_false _ ▸ hlow) (hnext hhigh)
    · rintro e ⟨⟩ hlow
      rw [isLowUnit_ofNat] at hlow
      rw [lowEscape?_of_hexUnit? hunit, if_pos hlow]
      exact Option.some_ne_none n
  | @pair a b c d high low t s tail _ _ _ h ih =>
    have hrest : ∀ e ∈ t.drop 6, e.isSurrogate = false :=
      fun e he => ht e (List.mem_append_right [_, _, a, b, c, d] (List.mem_of_mem_drop he))
    exact hwhole (isSurrogate_joinUnits high low) (ih hrest).1

/-- Strings, simple values and containers of joined texts. -/
lemma inherited_joined : Inherited Text.IsJoined fun _ => Value.IsJoined where
  simple _ v h := by
    cases h with
    | null => exact .null
    | bool b => exact .bool b
    | integer | float => exact .number _
  string _ _ ht := .string ht
  array _ _ hitems := .array hitems
  object _ _ hms :=
    .object (fun m hm => (hms m (Members.mem_ofList hm)).1)
      fun m hm => (hms m (Members.mem_ofList hm)).2

/-- What is read from a text without halves of surrogate pairs is joined. -/
lemma isJoined_of_read {depth : ℕ} (ht : ∀ c ∈ t, c.isSurrogate = false)
    (h : read depth t = .ok v) : v.IsJoined :=
  inherited_joined.of_read (fun ht h => (h.isJoined ht).1) ht h

end Json

end StructuredData
