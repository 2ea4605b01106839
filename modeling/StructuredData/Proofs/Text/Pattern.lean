import Mathlib.Data.List.Forall2
import Mathlib.Tactic.Common
import StructuredData.Text.Pattern

/-!
# What patterns read

`Reads p head rest` says what it is for a pattern to read the head of a text that goes on with
`rest`, without saying how such a head is found.  Matching tries every way of reading and misses
none: what can be left of a text is what stands behind some head that the pattern reads
(`mem_rests_iff`).
-/

namespace StructuredData

namespace Pattern

/-- The pattern reads a head in front of the rest of the text.  Only the end of the text asks for
what that rest is. -/
def Reads : Pattern → Text → Text → Prop
  | .nothing, head, _ => head = []
  | .atEnd, head, rest => head = [] ∧ (rest = [] ∨ rest = [Text.newline])
  | .one p, head, _ => ∃ c, head = [c] ∧ p c = true
  | .run p least most, head, _ =>
    (∀ c ∈ head, p c = true) ∧ least ≤ head.length ∧ ∀ n ∈ most, head.length ≤ n
  | .seq a b, head, rest =>
    ∃ first second, head = first ++ second ∧ a.Reads first (second ++ rest) ∧ b.Reads second rest
  | .alt a b, head, rest => a.Reads head rest ∨ b.Reads head rest
  | .maybe a, head, rest => head = [] ∨ a.Reads head rest

variable {p : CodePoint → Bool} {least : ℕ} {most : Option ℕ} {head rest t : Text}

/-! ## Matching finds what is read -/

/-- A run takes any number of code points within its bounds. -/
lemma mem_runRests_iff :
    rest ∈ runRests p least most t ↔
      ∃ head, t = head ++ rest ∧ (Pattern.run p least most).Reads head rest := by
  induction t generalizing least most with
  | nil =>
    by_cases hleast : least = 0 <;> simp [runRests, Reads, hleast]
  | cons c t ih =>
    -- either nothing is read, or the first code point and a run within bounds that are one smaller
    have hsplit : (∃ head, c :: t = head ++ rest ∧ (Pattern.run p least most).Reads head rest) ↔
        (least = 0 ∧ rest = c :: t) ∨ (most ≠ some 0 ∧ p c = true ∧
          ∃ head, t = head ++ rest ∧
            (Pattern.run p (least - 1) (most.map (· - 1))).Reads head rest) := by
      simp only [List.cons_eq_append_iff, Reads]
      constructor
      · rintro ⟨head, ⟨rfl, rfl⟩ | ⟨head, rfl, rfl⟩, hp, hleast, hmost⟩
        · exact .inl ⟨Nat.le_zero.mp hleast, rfl⟩
        · obtain ⟨hc, hhead⟩ := List.forall_mem_cons.mp hp
          rw [List.length_cons] at hleast hmost
          refine .inr ⟨?_, hc, head, rfl, hhead, by omega, ?_⟩
          · rintro rfl
            exact absurd (hmost 0 rfl) (by omega)
          · rintro n hn
            obtain ⟨m, hm, rfl⟩ := Option.map_eq_some_iff.mp hn
            have := hmost m hm
            omega
      · rintro (⟨rfl, rfl⟩ | ⟨hne, hc, head, rfl, hhead, hleast, hmost⟩)
        · exact ⟨[], .inl ⟨rfl, rfl⟩, by simp⟩
        · refine ⟨c :: head, .inr ⟨head, rfl, rfl⟩, List.forall_mem_cons.mpr ⟨hc, hhead⟩, ?_, ?_⟩
          · rw [List.length_cons]
            omega
          · rintro n rfl
            have hle := hmost (n - 1) rfl
            have hpos : n ≠ 0 := fun h => hne (congrArg some h)
            rw [List.length_cons]
            omega
    rw [hsplit, ← ih, runRests]
    by_cases hmost : most = some 0 <;> by_cases hc : p c = true <;>
      by_cases hleast : least = 0 <;> simp [hmost, hc, hleast]

/-- What a pattern can leave of a text is what stands behind the heads that it reads. -/
lemma mem_rests_iff (a : Pattern) {t rest : Text} :
    rest ∈ a.rests t ↔ ∃ head, t = head ++ rest ∧ a.Reads head rest := by
  induction a generalizing t rest with
  | nothing => simp [rests, Reads, eq_comm]
  | atEnd =>
    by_cases hend : t.isEmpty ∨ t = [Text.newline]
    · have hrests : Pattern.atEnd.rests t = [t] := if_pos hend
      rw [List.isEmpty_iff] at hend
      rw [hrests, List.mem_singleton]
      constructor
      · rintro rfl
        exact ⟨[], rfl, rfl, hend⟩
      · rintro ⟨head, rfl, rfl, -⟩
        rfl
    · have hrests : Pattern.atEnd.rests t = [] := if_neg hend
      rw [List.isEmpty_iff] at hend
      rw [hrests]
      refine iff_of_false List.not_mem_nil ?_
      rintro ⟨head, rfl, rfl, hrest⟩
      exact hend hrest
  | one p =>
    cases t with
    | nil => simp [rests, Reads]
    | cons c t =>
      by_cases hc : p c = true
      · simp only [rests, hc, if_true, List.mem_singleton, Reads]
        constructor
        · rintro rfl
          exact ⟨[c], rfl, c, rfl, hc⟩
        · rintro ⟨head, hsplit, d, rfl, -⟩
          exact (List.cons.inj hsplit).2.symm
      · simp only [rests, hc, Bool.false_eq_true, if_false, List.not_mem_nil, Reads, false_iff]
        rintro ⟨head, hsplit, d, rfl, hd⟩
        obtain ⟨rfl, -⟩ := List.cons.inj hsplit
        exact hc hd
  | run p least most => exact mem_runRests_iff
  | seq a b iha ihb =>
    simp only [rests, List.mem_flatMap, iha, ihb, Reads]
    constructor
    · rintro ⟨between, ⟨first, rfl, hfirst⟩, second, rfl, hsecond⟩
      exact ⟨first ++ second, (List.append_assoc _ _ _).symm, first, second, rfl, hfirst, hsecond⟩
    · rintro ⟨head, rfl, first, second, rfl, hfirst, hsecond⟩
      exact ⟨second ++ rest, ⟨first, List.append_assoc _ _ _, hfirst⟩, second, rfl, hsecond⟩
  | alt a b iha ihb =>
    simp only [rests, List.mem_append, iha, ihb, Reads, and_or_left, exists_or]
  | maybe a ih =>
    simp only [rests, List.mem_cons, ih, Reads, and_or_left, exists_or]
    simp [eq_comm]

/-- A pattern fits at the start of a text that has a head it reads. -/
lemma fits_iff {a : Pattern} {t : Text} :
    a.fits t = true ↔ ∃ head rest, t = head ++ rest ∧ a.Reads head rest := by
  have hnonempty : a.fits t = true ↔ ∃ rest, rest ∈ a.rests t := by
    simp [fits, List.eq_nil_iff_forall_not_mem]
  rw [hnonempty]
  simp only [mem_rests_iff]
  exact exists_comm

/-- A pattern occurs in a text that has a part it reads. -/
lemma occurs_iff {a : Pattern} {t : Text} :
    a.occurs t = true ↔ ∃ before head rest, t = before ++ (head ++ rest) ∧ a.Reads head rest := by
  induction t with
  | nil =>
    rw [occurs, fits_iff]
    constructor
    · rintro ⟨head, rest, hsplit, hreads⟩
      exact ⟨[], head, rest, hsplit, hreads⟩
    · rintro ⟨before, head, rest, hsplit, hreads⟩
      obtain ⟨-, hsplit⟩ := List.nil_eq_append_iff.mp hsplit
      exact ⟨head, rest, hsplit.symm, hreads⟩
  | cons c t ih =>
    rw [occurs, Bool.or_eq_true, fits_iff, ih]
    constructor
    · rintro (⟨head, rest, hsplit, hreads⟩ | ⟨before, head, rest, rfl, hreads⟩)
      · exact ⟨[], head, rest, hsplit, hreads⟩
      · exact ⟨c :: before, head, rest, rfl, hreads⟩
    · rintro ⟨before, head, rest, hsplit, hreads⟩
      cases before with
      | nil => exact .inl ⟨head, rest, hsplit, hreads⟩
      | cons b before =>
        obtain ⟨rfl, rfl⟩ := List.cons.inj hsplit
        exact .inr ⟨before, head, rest, rfl, hreads⟩

/-! ## Patterns one after another -/

variable {a : Pattern} {ps : List Pattern}

lemma reads_all_cons :
    (all (a :: ps)).Reads head rest ↔
      ∃ first second, head = first ++ second ∧ a.Reads first (second ++ rest) ∧
        (all ps).Reads second rest :=
  Iff.rfl

lemma reads_char {c : Char} : (char c).Reads head rest ↔ head = [CodePoint.ofChar c] := by
  simp [char, Reads]

/-- A sign stands at the head of what patterns one after another read. -/
lemma reads_all_char {c : Char} :
    (all (char c :: ps)).Reads head rest ↔
      ∃ later, head = [CodePoint.ofChar c] ++ later ∧ (all ps).Reads later rest := by
  simp [reads_all_cons, reads_char]

lemma reads_all_maybe :
    (all (.maybe a :: ps)).Reads head rest ↔
      ∃ first later, head = first ++ later ∧ (first = [] ∨ a.Reads first (later ++ rest)) ∧
        (all ps).Reads later rest :=
  Iff.rfl

lemma reads_all_run :
    (all (.run p least most :: ps)).Reads head rest ↔
      ∃ first later, head = first ++ later ∧
        ((∀ c ∈ first, p c = true) ∧ least ≤ first.length ∧ ∀ n ∈ most, first.length ≤ n) ∧
        (all ps).Reads later rest :=
  Iff.rfl

lemma reads_all_one :
    (all (.one p :: ps)).Reads head rest ↔
      ∃ c later, head = c :: later ∧ p c = true ∧ (all ps).Reads later rest := by
  simp only [reads_all_cons, Reads]
  constructor
  · rintro ⟨_, later, rfl, ⟨c, rfl, hc⟩, hlater⟩
    exact ⟨c, later, rfl, hc, hlater⟩
  · rintro ⟨c, later, rfl, hc, hlater⟩
    exact ⟨[c], later, rfl, ⟨c, rfl, hc⟩, hlater⟩

lemma reads_all_nil : (all []).Reads head rest ↔ head = [] := Iff.rfl

/-- A row of classes is read one code point at a time. -/
lemma reads_all_ones {class? : CodePoint → CodePoint → Bool} :
    (all (t.map fun c => .one (class? c))).Reads head rest ↔
      List.Forall₂ (fun c d => class? c d = true) t head := by
  induction t generalizing head with
  | nil => simp [reads_all_nil]
  | cons c t ih =>
    rw [List.map_cons, reads_all_one, List.forall₂_cons_left_iff]
    simp only [ih]
    constructor
    · rintro ⟨d, later, rfl, hd, hlater⟩
      exact ⟨d, later, hd, hlater, rfl⟩
    · rintro ⟨d, later, hd, hlater, rfl⟩
      exact ⟨d, later, rfl, hd, hlater⟩

/-- A word reads itself. -/
lemma reads_word : (word t).Reads head rest ↔ head = t := by
  have hsame : (fun c d : CodePoint => decide (d = c) = true) = Eq := by
    funext c d
    simp [eq_comm]
  unfold word
  rw [reads_all_ones, hsame, List.forall₂_eq_eq_eq, eq_comm]

/-- One of some patterns reads what any of them reads. -/
lemma reads_oneOf :
    (oneOf a ps).Reads head rest ↔ ∃ q ∈ a :: ps, q.Reads head rest := by
  induction ps generalizing a with
  | nil => simp [oneOf]
  | cons b ps ih =>
    have hfirst : oneOf a (b :: ps) = oneOf (.alt a b) ps := rfl
    rw [hfirst, ih]
    simp only [List.mem_cons, exists_eq_or_imp, Reads, or_assoc]

/-- A pattern that asks for the end reads all of the text, or all but a final line feed. -/
lemma reads_all_atEnd :
    (all [.atEnd]).Reads head rest ↔ head = [] ∧ (rest = [] ∨ rest = [Text.newline]) := by
  simp [all, Reads]

end Pattern

end StructuredData
