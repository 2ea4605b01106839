import StructuredData.Proofs.Text.Blanks
import StructuredData.Proofs.Text.Utf8

/-!
# Words and small letters

The words of a text are told without the reader that finds them: a text is made of words in their
order (`Text.MadeOf`) if blanks alone stand before, between and after them, and at least one between
any two.  The reader finds the words that the text is made of (`blankSeparated_eq_iff`).

Putting a text into small letters is a matter of each word alone: no small form of a blank or of
anything else crosses the line between the two, and the rule for the last sigma of a word never
looks beyond a blank.  So the words of the small form are the small forms of the words
(`MadeOf.lower`).  Nor does it matter to the small form in which case the ASCII letters are written
(`SameButCase.lower_eq`).
-/

namespace StructuredData

namespace CodePoint

variable {c d : CodePoint}

/-! ## Blanks and letters -/

/-- No blank has case, and neither blanks nor ASCII letters are passed over in the search for a
letter with case. -/
lemma casingRanges_apart :
    (∀ b ∈ blankRanges, ∀ r ∈ casedRanges ++ caseIgnorableRanges, b.2 < r.1 ∨ r.2 < b.1) ∧
      ∀ r ∈ caseIgnorableRanges, (r.2 < 65 ∨ 90 < r.1) ∧ (r.2 < 97 ∨ 122 < r.1) := by
  decide +kernel

/-- No letter has a blank as its small form. -/
lemma blankRanges_apart_smallForms :
    ∀ b ∈ blankRanges, ∀ r ∈ smallFormRuns,
      (b.2 : ℤ) < r.1 + r.2.2.2 ∨ (r.2.1 : ℤ) + r.2.2.2 < b.1 := by
  decide +kernel

lemma inRanges_of_isBlank (h : c.isBlank = true) {ranges : List (ℕ × ℕ)}
    (hranges : ranges ⊆ casedRanges ++ caseIgnorableRanges) : c.inRanges ranges = false := by
  obtain ⟨b, hb, hlow, hhigh⟩ := exists_blankRange h
  unfold inRanges
  rw [List.any_eq_false]
  intro r hr
  have hapart := casingRanges_apart.1 b hb r (hranges hr)
  simp only [Bool.and_eq_true, decide_eq_true_eq]
  omega

lemma isCased_of_isBlank (h : c.isBlank = true) : c.isCased = false :=
  inRanges_of_isBlank h (List.subset_append_left _ _)

lemma isCaseIgnorable_of_isBlank (h : c.isBlank = true) : c.isCaseIgnorable = false :=
  inRanges_of_isBlank h (List.subset_append_right _ _)

lemma isBlank_smallForm (h : c.isBlank = false) : c.smallForm.isBlank = false := by
  unfold smallForm
  split
  · next r hr =>
    have hrange := List.find?_some hr
    simp only [Bool.and_eq_true, decide_eq_true_eq] at hrange
    rw [Bool.eq_false_iff]
    intro hblank
    obtain ⟨b, hb, hlow, hhigh⟩ := exists_blankRange hblank
    have hapart := blankRanges_apart_smallForms b hb r (List.mem_of_find?_eq_some hr)
    have hb' : ∀ b ∈ blankRanges, 0 < b.1 ∧ b.2 < 0xFFFD := by decide
    have hrow := hb' b hb
    rw [val_ofNat] at hlow hhigh
    split_ifs at hlow hhigh
    · omega
    · omega
  · exact h

/-- The small form of a capital ASCII letter is no blank. -/
lemma isBlank_of_isAsciiUpper (hc : c.isAsciiUpper = true) (hd : d.val = c.val + 32) :
    d.isBlank = false := by
  simp only [isAsciiUpper, Bool.and_eq_true, decide_eq_true_eq] at hc
  rw [Bool.eq_false_iff]
  intro hblank
  obtain ⟨b, hb, hlow, hhigh⟩ := exists_blankRange hblank
  have hapart : ∀ b ∈ blankRanges, b.2 < 97 ∨ 122 < b.1 := by decide
  have hrow := hapart b hb
  omega

/-! ## Letters of either case -/

/-- The code points are the same, or one ASCII letter in both cases. -/
inductive SameButCase : CodePoint → CodePoint → Prop
  | refl (c : CodePoint) : SameButCase c c
  | small {c d : CodePoint} (hc : c.isAsciiUpper = true) (hd : d.val = c.val + 32) : SameButCase c d
  | capital {c d : CodePoint} (hd : d.isAsciiUpper = true) (hc : c.val = d.val + 32) :
      SameButCase c d

/-- A capital ASCII letter and its small form have case, and neither is passed over. -/
lemma cased_of_isAsciiUpper (hc : c.isAsciiUpper = true) (hd : d.val = c.val ∨ d.val = c.val + 32) :
    d.isCased = true ∧ d.isCaseIgnorable = false := by
  simp only [isAsciiUpper, Bool.and_eq_true, decide_eq_true_eq] at hc
  constructor
  · unfold isCased inRanges
    rw [List.any_eq_true]
    rcases hd with hd | hd
    · exact ⟨(0x41, 0x5A), by decide, by simp only [Bool.and_eq_true, decide_eq_true_eq]; omega⟩
    · exact ⟨(0x61, 0x7A), by decide, by simp only [Bool.and_eq_true, decide_eq_true_eq]; omega⟩
  · unfold isCaseIgnorable inRanges
    rw [List.any_eq_false]
    intro r hr
    have hapart := casingRanges_apart.2 r hr
    simp only [Bool.and_eq_true, decide_eq_true_eq]
    omega

lemma SameButCase.isCased_eq (h : SameButCase c d) :
    c.isCased = d.isCased ∧ c.isCaseIgnorable = d.isCaseIgnorable := by
  cases h with
  | refl => exact ⟨rfl, rfl⟩
  | small hc hd =>
    have hcapital := cased_of_isAsciiUpper hc (.inl rfl)
    have hsmall := cased_of_isAsciiUpper hc (.inr hd)
    rw [hcapital.1, hcapital.2, hsmall.1, hsmall.2]
    exact ⟨rfl, rfl⟩
  | capital hd hc =>
    have hcapital := cased_of_isAsciiUpper hd (.inl rfl)
    have hsmall := cased_of_isAsciiUpper hd (.inr hc)
    rw [hcapital.1, hcapital.2, hsmall.1, hsmall.2]
    exact ⟨rfl, rfl⟩

end CodePoint

namespace Text

open CodePoint (SameButCase)

variable {s t w before before' : Text} {ws : List Text} {c d : CodePoint}

/-! ## Small letters, word by word -/

/-- The search for a letter with case ends at a blank. -/
lemma startsCased_append_blank (hc : c.isBlank = true) (s t : Text) :
    startsCased (s ++ c :: t) = startsCased s := by
  unfold startsCased
  induction s with
  | nil =>
    have hignorable : ¬ c.isCaseIgnorable = true := by
      rw [CodePoint.isCaseIgnorable_of_isBlank hc]
      exact Bool.false_ne_true
    rw [List.nil_append, List.dropWhile_cons_of_neg hignorable]
    exact CodePoint.isCased_of_isBlank hc
  | cons d s ih =>
    rw [List.cons_append, List.dropWhile_cons, List.dropWhile_cons]
    split_ifs
    · exact ih
    · rfl

/-- The text is empty or begins with a blank, so that a word before it ends there. -/
def EndsWord (t : Text) : Prop := ∀ c ∈ t.head?, c.isBlank = true

lemma startsCased_append (ht : EndsWord t) (s : Text) : startsCased (s ++ t) = startsCased s := by
  cases t with
  | nil => rw [List.append_nil]
  | cons c t => exact startsCased_append_blank (ht c rfl) s t

lemma smallFormIn_append (ht : EndsWord t) (before : Text) (c : CodePoint) (s : Text) :
    smallFormIn before c (s ++ t) = smallFormIn before c s := by
  unfold smallFormIn
  rw [startsCased_append ht]

lemma lowerFrom_append (ht : EndsWord t) (before s : Text) :
    lowerFrom before (s ++ t) = lowerFrom before s ++ lowerFrom (s.reverse ++ before) t := by
  induction s generalizing before with
  | nil => rfl
  | cons c s ih =>
    rw [List.cons_append, lowerFrom, lowerFrom, smallFormIn_append ht, ih, List.append_assoc,
      List.reverse_cons, List.append_assoc, List.singleton_append]

/-- What stands before a blank does not matter to what stands after it. -/
lemma lowerFrom_after_blank (hc : c.isBlank = true) (s before t : Text) :
    lowerFrom (s ++ c :: before) t = lowerFrom s t := by
  induction t generalizing s with
  | nil => rfl
  | cons d t ih =>
    have hform : smallFormIn (s ++ c :: before) d t = smallFormIn s d t := by
      unfold smallFormIn
      rw [startsCased_append_blank hc]
    rw [lowerFrom, lowerFrom, hform, ← List.cons_append, ih]

/-- At a blank, putting into small letters begins anew. -/
lemma lowerFrom_blank (hc : c.isBlank = true) (before t : Text) :
    lowerFrom before (c :: t) = c :: lower t := by
  rw [lowerFrom, smallFormIn_of_isBlank hc, List.singleton_append]
  exact congrArg (c :: ·) (lowerFrom_after_blank hc [] before t)

/-- A text in small letters is made of its parts in small letters, where a word ends between
them. -/
lemma lower_append (ht : EndsWord t) (s : Text) : lower (s ++ t) = lower s ++ lower t := by
  show lowerFrom [] (s ++ t) = lowerFrom [] s ++ lowerFrom [] t
  rw [lowerFrom_append ht]
  cases t with
  | nil => rfl
  | cons c t =>
    have hc : c.isBlank = true := ht c rfl
    rw [lowerFrom_blank hc, lowerFrom_blank hc]

/-! ## Texts made of words -/

/-- Nothing but blanks. -/
def IsGap (gap : Text) : Prop := ∀ c ∈ gap, c.isBlank = true

/-- Something without blanks. -/
structure IsWord (w : Text) : Prop where
  ne_nil : w ≠ []
  noBlank : ∀ c ∈ w, c.isBlank = false

/-- The text is made of the words in their order: beside them it has only blanks, and at least one
between any two words. -/
inductive MadeOf : List Text → Text → Prop
  | nil : MadeOf [] []
  | blank {c : CodePoint} {ws : List Text} {t : Text} (hc : c.isBlank = true) (h : MadeOf ws t) :
      MadeOf ws (c :: t)
  | word {w : Text} {ws : List Text} {t : Text} (hw : IsWord w) (ht : EndsWord t)
      (h : MadeOf ws t) : MadeOf (w :: ws) (w ++ t)

/-- A code point that is no blank comes to the first word, or is a word of its own. -/
lemma MadeOf.exists_cons (h : MadeOf ws t) (hc : c.isBlank = false) :
    ∃ ws', MadeOf ws' (c :: t) := by
  have hsingle : IsWord [c] := ⟨List.cons_ne_nil _ _, List.forall_mem_singleton.mpr hc⟩
  cases h with
  | nil => exact ⟨[[c]], .word hsingle (fun _ h => nomatch h) .nil⟩
  | @blank d ws t hd h =>
    refine ⟨[c] :: ws, .word hsingle ?_ (.blank hd h)⟩
    rintro _ ⟨⟩
    exact hd
  | @word w ws t hw ht h =>
    refine ⟨(c :: w) :: ws, .word ⟨List.cons_ne_nil _ _, ?_⟩ ht h⟩
    exact List.forall_mem_cons.mpr ⟨hc, hw.noBlank⟩

/-- Every text is made of some words. -/
lemma exists_madeOf (t : Text) : ∃ ws, MadeOf ws t := by
  induction t with
  | nil => exact ⟨[], .nil⟩
  | cons c t ih =>
    obtain ⟨ws, h⟩ := ih
    by_cases hc : c.isBlank = true
    · exact ⟨ws, .blank hc h⟩
    · exact h.exists_cons (Bool.eq_false_iff.mpr hc)

/-! ## Reading words -/

lemma wordsFrom_append (hw : ∀ c ∈ w, c.isBlank = false) (t acc : Text) :
    wordsFrom CodePoint.isBlank (w ++ t) acc =
      wordsFrom CodePoint.isBlank t (w.reverse ++ acc) := by
  induction w generalizing acc with
  | nil => rfl
  | cons c w ih =>
    obtain ⟨hc, hw⟩ := List.forall_mem_cons.mp hw
    rw [List.cons_append, wordsFrom, hc, if_neg Bool.false_ne_true, ih hw, List.reverse_cons,
      List.append_assoc, List.singleton_append]

lemma wordsFrom_of_endsWord (ht : EndsWord t) {acc : Text} (hacc : acc ≠ []) :
    wordsFrom CodePoint.isBlank t acc = acc.reverse :: blankSeparated t := by
  have hopen : acc.isEmpty = false := by simpa using hacc
  cases t with
  | nil =>
    obtain ⟨c, acc, rfl⟩ := List.exists_cons_of_ne_nil hacc
    rfl
  | cons c t =>
    have hc : c.isBlank = true := ht c rfl
    show wordsFrom _ (c :: t) acc = acc.reverse :: wordsFrom _ (c :: t) []
    rw [wordsFrom, wordsFrom, hc, hopen]
    rfl

lemma MadeOf.blankSeparated_eq (h : MadeOf ws t) : blankSeparated t = ws := by
  induction h with
  | nil => rfl
  | @blank c ws t hc h ih =>
    show wordsFrom CodePoint.isBlank (c :: t) [] = ws
    rw [wordsFrom, hc]
    exact ih
  | @word w ws t hw ht h ih =>
    have hacc : w.reverse ++ [] ≠ [] := by simpa using hw.ne_nil
    show wordsFrom CodePoint.isBlank (w ++ t) [] = w :: ws
    rw [wordsFrom_append hw.noBlank, wordsFrom_of_endsWord ht hacc, ih, List.append_nil,
      List.reverse_reverse]

/-- What is read is the row of words that the text is made of. -/
lemma blankSeparated_eq_iff : blankSeparated t = ws ↔ MadeOf ws t := by
  constructor
  · rintro rfl
    obtain ⟨ws, h⟩ := exists_madeOf t
    rwa [h.blankSeparated_eq]
  · exact MadeOf.blankSeparated_eq

lemma madeOf_blankSeparated (t : Text) : MadeOf (blankSeparated t) t :=
  blankSeparated_eq_iff.mp rfl

/-- The words of a text that goes on after a word has ended are those of both parts. -/
lemma MadeOf.append {ws' : List Text} (h : MadeOf ws s) (ht : EndsWord t) (h' : MadeOf ws' t) :
    MadeOf (ws ++ ws') (s ++ t) := by
  induction h with
  | nil => exact h'
  | blank hc _ ih => exact .blank hc ih
  | @word w ws s hw hs h ih =>
    rw [List.append_assoc]
    refine .word hw ?_ ih
    cases s with
    | nil => exact ht
    | cons c s => exact hs

/-! ## Words in small letters -/

lemma smallFormIn_ne_nil (before : Text) (c : CodePoint) (after : Text) :
    smallFormIn before c after ≠ [] := by
  unfold smallFormIn
  split_ifs <;> exact List.cons_ne_nil _ _

lemma isBlank_of_mem_smallFormIn (hc : c.isBlank = false) {before after : Text}
    (hd : d ∈ smallFormIn before c after) : d.isBlank = false := by
  unfold smallFormIn at hd
  split_ifs at hd with hascii hupper hdotted hsigma hfinal
  · have hval : (CodePoint.ofNat (c.val + 32)).val = c.val + 32 := by
      simp only [CodePoint.isAscii, decide_eq_true_eq] at hascii
      rw [CodePoint.val_ofNat, if_pos (by omega)]
    rw [List.mem_singleton.mp hd]
    exact CodePoint.isBlank_of_isAsciiUpper hupper hval
  · rwa [List.mem_singleton.mp hd]
  · revert d
    decide
  · revert d
    decide
  · revert d
    decide
  · rw [List.mem_singleton.mp hd]
    exact CodePoint.isBlank_smallForm hc

lemma isBlank_of_mem_lowerFrom (hw : ∀ c ∈ w, c.isBlank = false) (hd : d ∈ lowerFrom before w) :
    d.isBlank = false := by
  induction w generalizing before with
  | nil => cases hd
  | cons c w ih =>
    obtain ⟨hc, hw⟩ := List.forall_mem_cons.mp hw
    rw [lowerFrom, List.mem_append] at hd
    rcases hd with hd | hd
    · exact isBlank_of_mem_smallFormIn hc hd
    · exact ih hw hd

/-- A word in small letters is a word. -/
lemma IsWord.lower (hw : IsWord w) : IsWord (Text.lower w) := by
  refine ⟨?_, fun d hd => isBlank_of_mem_lowerFrom hw.noBlank hd⟩
  obtain ⟨c, w, rfl⟩ := List.exists_cons_of_ne_nil hw.ne_nil
  exact List.append_ne_nil_of_left_ne_nil (smallFormIn_ne_nil [] c w) _

lemma EndsWord.lower (ht : EndsWord t) : EndsWord (Text.lower t) := by
  cases t with
  | nil => exact ht
  | cons c t =>
    have hc : c.isBlank = true := ht c rfl
    show EndsWord (lowerFrom [] (c :: t))
    rw [lowerFrom_blank hc]
    exact ht

/-- The words of a text in small letters are its words in small letters. -/
theorem MadeOf.lower (h : MadeOf ws t) : MadeOf (ws.map Text.lower) (Text.lower t) := by
  induction h with
  | nil => exact .nil
  | @blank c ws t hc h ih =>
    show MadeOf _ (lowerFrom [] (c :: t))
    rw [lowerFrom_blank hc]
    exact .blank hc ih
  | @word w ws t hw ht h ih =>
    rw [lower_append ht]
    exact .word hw.lower ht.lower ih

/-! ## The case of ASCII letters -/

/-- The texts are the same but for the case in which ASCII letters are written. -/
def SameButCase (s t : Text) : Prop := List.Forall₂ CodePoint.SameButCase s t

lemma SameButCase.startsCased_eq (h : SameButCase s t) : startsCased s = startsCased t := by
  unfold startsCased
  induction h with
  | nil => rfl
  | cons hc _ ih =>
    obtain ⟨hcased, hignorable⟩ := hc.isCased_eq
    rw [List.dropWhile_cons, List.dropWhile_cons, hignorable]
    split_ifs
    · exact ih
    · exact hcased

/-- A capital ASCII letter and its small form have one small form, whatever stands around them. -/
lemma smallFormIn_asciiLetter (hc : c.isAsciiUpper = true) (hd : d.val = c.val + 32)
    (before after : Text) :
    smallFormIn before c after = [d] ∧ smallFormIn before d after = [d] := by
  have hrange := hc
  simp only [CodePoint.isAsciiUpper, Bool.and_eq_true, decide_eq_true_eq] at hrange
  have hascii : c.isAscii = true ∧ d.isAscii = true := by
    simp only [CodePoint.isAscii, decide_eq_true_eq]
    omega
  have hsmall : d.isAsciiUpper = false := by
    simp only [CodePoint.isAsciiUpper, Bool.and_eq_false_iff, decide_eq_false_iff_not]
    omega
  constructor
  · rw [smallFormIn, if_pos hascii.1, if_pos hc, Utf8.ofNat_of_eq hd.symm]
  · rw [smallFormIn, if_pos hascii.2, hsmall, if_neg Bool.false_ne_true]

lemma smallFormIn_eq_of_sameButCase (hc : CodePoint.SameButCase c d)
    (hbefore : SameButCase before before') (h : SameButCase s t) :
    smallFormIn before c s = smallFormIn before' d t := by
  cases hc with
  | refl =>
    unfold smallFormIn
    rw [hbefore.startsCased_eq, h.startsCased_eq]
  | small hc hd =>
    rw [(smallFormIn_asciiLetter hc hd _ _).1, (smallFormIn_asciiLetter hc hd _ _).2]
  | capital hd hc =>
    rw [(smallFormIn_asciiLetter hd hc _ _).1, (smallFormIn_asciiLetter hd hc _ _).2]

lemma lowerFrom_eq_of_sameButCase (hbefore : SameButCase before before') (h : SameButCase s t) :
    lowerFrom before s = lowerFrom before' t := by
  induction h generalizing before before' with
  | nil => rfl
  | cons hc h ih =>
    rw [lowerFrom, lowerFrom, smallFormIn_eq_of_sameButCase hc hbefore h, ih (.cons hc hbefore)]

/-- The case of ASCII letters does not matter to a text in small letters. -/
theorem SameButCase.lower_eq (h : SameButCase s t) : Text.lower s = Text.lower t :=
  lowerFrom_eq_of_sameButCase .nil h

end Text

end StructuredData
