import Mathlib.Data.List.DropRight
import Mathlib.Data.List.Nodup
import StructuredData.Archive
import StructuredData.Proofs.Files.Paths
import StructuredData.Proofs.Number.Decimal

/-!
# The names in an archive

The names that an archive gives to labels, moments and documents lead one step down each.  No stamp
is `latest`; moments of the calendar with one stamp agree to the second, and the number of a
document can be read off the name of its file, so that the documents of a run have names of their
own.
-/

namespace StructuredData

open StructuredData.Path

variable {c : CodePoint} {t name : Text}

/-! ## Names of safe code points -/

namespace RunName

lemma isSafe_of_isAsciiDigit (h : c.isAsciiDigit = true) : isSafe c = true := by
  simp [isSafe, h]

lemma isSurrogate_of_isSafe (h : isSafe c = true) : c.isSurrogate = false := by
  simp only [isSafe, CodePoint.isAsciiDigit, CodePoint.isAsciiUpper, CodePoint.isAsciiLower,
    Bool.or_eq_true, Bool.and_eq_true, decide_eq_true_eq] at h
  simp only [CodePoint.isSurrogate, Bool.and_eq_false_iff, decide_eq_false_iff_not]
  rcases h with ((h | rfl) | rfl) | rfl
  all_goals first | omega | decide

/-- Safe code points that do not start with a dot make a name. -/
lemma isName_of_isSafe (hne : name ≠ []) (hsafe : ∀ c ∈ name, isSafe c = true)
    (hhead : name.head? ≠ some (CodePoint.ofChar '.')) : IsName name where
  ne_nil := hne
  noSlash h := absurd (hsafe _ h) (by decide)
  points c hc := by
    have hnull : ∀ c : CodePoint, c.val = 0 → isSafe c = false := by
      rintro ⟨val, isLt⟩ rfl
      decide +revert
    refine ⟨fun hzero => ?_, by simp [isSurrogate_of_isSafe (hsafe c hc)]⟩
    exact absurd (hsafe c hc) (by simp [hnull c hzero])
  noDots := by
    by_contra hdots
    simp only [isDots, Bool.or_eq_false_iff, decide_eq_false_iff_not, not_and_or, not_not] at hdots
    rcases hdots with rfl | rfl <;> exact hhead rfl

lemma isSafe_of_mem_replaceUnsafe {afterUnsafe : Bool} (h : c ∈ replaceUnsafe afterUnsafe t) :
    isSafe c = true := by
  induction t generalizing afterUnsafe with
  | nil => cases h
  | cons d rest ih =>
    rw [replaceUnsafe] at h
    split_ifs at h with hd hafter
    · rcases List.mem_cons.mp h with rfl | h
      · exact hd
      · exact ih h
    · exact ih h
    · rcases List.mem_cons.mp h with rfl | h
      · decide
      · exact ih h

lemma mem_of_mem_trim {p : CodePoint → Bool} (h : c ∈ Text.trim p t) : c ∈ t := by
  unfold Text.trim at h
  have hfront := (List.dropWhile_suffix p).subset (List.mem_reverse.mp h)
  exact (List.dropWhile_suffix p).subset (List.mem_reverse.mp hfront)

/-- What is trimmed starts with nothing that is trimmed off. -/
lemma head?_trim {p : CodePoint → Bool} (h : (Text.trim p t).head? = some c) : p c = false := by
  obtain ⟨back, hback⟩ : Text.trim p t <+: t.dropWhile p := List.rdropWhile_prefix p _
  have hhead : (t.dropWhile p).head? = some c := by
    rw [← hback, List.head?_append, h]
    rfl
  have hnot := List.head?_dropWhile_not p t
  rw [hhead] at hnot
  exact hnot

lemma isSafe_of_mem_ofLabel (h : c ∈ ofLabel t) : isSafe c = true := by
  unfold ofLabel at h
  dsimp only at h
  split_ifs at h
  · revert c
    decide
  · exact isSafe_of_mem_replaceUnsafe (mem_of_mem_trim h)

lemma ofLabel_ne_nil (label : Text) : ofLabel label ≠ [] := by
  unfold ofLabel
  dsimp only
  split_ifs with hempty
  · decide
  · simpa using hempty

lemma isName_ofLabel (label : Text) : IsName (ofLabel label) := by
  refine isName_of_isSafe (ofLabel_ne_nil label) (fun c => isSafe_of_mem_ofLabel) fun hhead => ?_
  unfold ofLabel at hhead
  dsimp only at hhead
  split_ifs at hhead
  · revert hhead
    decide
  · exact absurd (head?_trim hhead) (by decide)

end RunName

/-! ## Stamps -/

namespace Moment

variable {m m' : Moment} {n n' : ℕ}

lemma isAsciiDigit_of_mem_two (h : c ∈ two n) : c.isAsciiDigit = true := by
  rcases List.mem_append.mp h with h | h
  · rw [List.eq_of_mem_replicate h]
    decide
  · exact Text.isAsciiDigit_of_mem_ofNat h

lemma notMem_two (hc : c.isAsciiDigit = false) : c ∉ two n := by
  intro h
  rw [isAsciiDigit_of_mem_two h] at hc
  cases hc

lemma two_ne_nil (n : ℕ) : two n ≠ [] := by
  simp [two, Text.padLeft, Text.ofNat_ne_nil]

lemma digitsValue_two (n : ℕ) : (two n).digitsValue = n := by
  rw [two, Text.digitsValue_padLeft, Text.digitsValue_ofNat]

lemma two_injective : Function.Injective two :=
  Function.LeftInverse.injective digitsValue_two

lemma length_two (hn : n < 100) : (two n).length = 2 := by
  have hlength : (Text.ofNat n).length ≤ 2 := (Text.length_ofNat_le_iff (by decide)).mpr hn
  rw [two, Text.padLeft, List.length_append, List.length_replicate]
  omega

/-- The moment without its part of a second. -/
def toSecond (m : Moment) : Moment := { m with microsecond := 0 }

lemma stamp_eq (m : Moment) :
    m.stamp = Text.ofNat m.year ++ CodePoint.ofChar '-' :: (two m.month ++
      CodePoint.ofChar '-' :: (two m.day ++ CodePoint.ofChar '_' ::
        (two m.hour ++ (two m.minute ++ two m.second)))) := by
  simp [stamp, dateText, Text.ofString]

/-- All numbers of a moment of the calendar but its year and microsecond have at most two
digits. -/
lemma lt_hundred_of_fault?_eq_none (h : m.fault? = none) :
    m.month < 100 ∧ m.day < 100 ∧ m.hour < 100 ∧ m.minute < 100 ∧ m.second < 100 := by
  have hdays : daysInMonth m.year m.month ≤ 31 := by
    unfold daysInMonth
    split_ifs <;> decide
  unfold fault? at h
  split_ifs at h with hyear hmonth hday hhour hminute hsecond
  simp only [Bool.or_eq_true, decide_eq_true_eq, not_or] at hmonth hday
  omega

/-- Moments of the calendar with one stamp agree to the second. -/
lemma toSecond_eq_of_stamp_eq (hm : m.fault? = none) (hm' : m'.fault? = none)
    (h : m.stamp = m'.stamp) : m.toSecond = m'.toSecond := by
  obtain ⟨-, -, hhour, hminute, -⟩ := lt_hundred_of_fault?_eq_none hm
  obtain ⟨-, -, hhour', hminute', -⟩ := lt_hundred_of_fault?_eq_none hm'
  have hyear : ∀ n, CodePoint.ofChar '-' ∉ Text.ofNat n := fun n hmem =>
    absurd (Text.isAsciiDigit_of_mem_ofNat hmem) (by decide)
  have htwo : ∀ n, CodePoint.ofChar '-' ∉ two n ∧ CodePoint.ofChar '_' ∉ two n := fun n =>
    ⟨notMem_two (by decide), notMem_two (by decide)⟩
  rw [stamp_eq, stamp_eq] at h
  obtain ⟨hy, h⟩ := Text.append_separator_inj (hyear _) (hyear _) h
  obtain ⟨hmo, h⟩ := Text.append_separator_inj (htwo _).1 (htwo _).1 h
  obtain ⟨hd, h⟩ := Text.append_separator_inj (htwo _).2 (htwo _).2 h
  obtain ⟨hh, h⟩ := List.append_inj h (by rw [length_two hhour, length_two hhour'])
  obtain ⟨hmi, hs⟩ := List.append_inj h (by rw [length_two hminute, length_two hminute'])
  obtain ⟨year, month, day, hour, minute, second, microsecond⟩ := m
  simp only [toSecond, Moment.mk.injEq]
  exact ⟨Text.ofNat_injective hy, two_injective hmo, two_injective hd, two_injective hh,
    two_injective hmi, two_injective hs, trivial⟩

/-- A stamp starts with a digit. -/
lemma exists_digit_of_stamp (m : Moment) :
    ∃ c rest, m.stamp = c :: rest ∧ c.isAsciiDigit = true := by
  obtain ⟨c, digits, hyear⟩ := List.exists_cons_of_ne_nil (Text.ofNat_ne_nil m.year)
  refine ⟨c, _, by rw [stamp_eq, hyear, List.cons_append], ?_⟩
  exact Text.isAsciiDigit_of_mem_ofNat (hyear ▸ List.mem_cons_self)

lemma isSafe_of_mem_stamp (h : c ∈ m.stamp) : RunName.isSafe c = true := by
  have hdigit (n : ℕ) (h : c ∈ two n) : RunName.isSafe c = true :=
    RunName.isSafe_of_isAsciiDigit (isAsciiDigit_of_mem_two h)
  rw [stamp_eq] at h
  simp only [List.mem_append, List.mem_cons] at h
  rcases h with h | rfl | h | rfl | h | rfl | h | h | h
  · exact RunName.isSafe_of_isAsciiDigit (Text.isAsciiDigit_of_mem_ofNat h)
  · decide
  · exact hdigit _ h
  · decide
  · exact hdigit _ h
  · decide
  · exact hdigit _ h
  · exact hdigit _ h
  · exact hdigit _ h

lemma isName_stamp (m : Moment) : IsName m.stamp := by
  obtain ⟨c, rest, hstamp, hdigit⟩ := exists_digit_of_stamp m
  refine RunName.isName_of_isSafe (by simp [hstamp]) (fun c => isSafe_of_mem_stamp) ?_
  rw [hstamp]
  rintro ⟨⟩
  exact absurd hdigit (by decide)

lemma stamp_ne_latest (m : Moment) : m.stamp ≠ "latest" := by
  obtain ⟨c, rest, hstamp, hdigit⟩ := exists_digit_of_stamp m
  rw [hstamp]
  rintro ⟨⟩
  exact absurd hdigit (by decide)

end Moment

/-! ## Documents -/

namespace Archive

lemma documentName_eq (index : ℕ) (type : Text) :
    documentName index type =
      Moment.two index ++ CodePoint.ofChar '_' :: (RunName.ofLabel type ++ ".json") := by
  simp [documentName, Text.ofString]

/-- The number in front of the first low line of a name, if digits write one there. -/
def numberInFront? (name : Text) : Option ℕ :=
  match Text.splitOn '_' name with
  | digits :: _ :: _ =>
    if !digits.isEmpty && digits.all CodePoint.isAsciiDigit then some digits.digitsValue else none
  | _ => none

/-- The number of a document can be read off the name of its file. -/
lemma numberInFront?_documentName (index : ℕ) (type : Text) :
    numberInFront? (documentName index type) = some index := by
  have hline : CodePoint.ofChar '_' ∉ Moment.two index := Moment.notMem_two (by decide)
  obtain ⟨second, more, hrest⟩ :=
    List.exists_cons_of_ne_nil (Text.splitOn_ne_nil '_' (RunName.ofLabel type ++ ".json"))
  have hdigits : (Moment.two index).all CodePoint.isAsciiDigit = true :=
    List.all_eq_true.mpr fun c hc => Moment.isAsciiDigit_of_mem_two hc
  have hsome : (Moment.two index).isEmpty = false := by simpa using Moment.two_ne_nil index
  rw [numberInFront?, documentName_eq, Text.splitOn_append_of_notMem hline, hrest]
  simp [hdigits, hsome, Moment.digitsValue_two]

/-- Names of different numbers differ, whatever the types are. -/
lemma nodup_documentNames {α : Type} (type : α → Text) (xs : List α) :
    (xs.zipIdx.map fun x => documentName x.2 (type x.1)).Nodup := by
  refine List.Nodup.of_map numberInFront? ?_
  have hnumbers : (xs.zipIdx.map fun x => documentName x.2 (type x.1)).map numberInFront? =
      (xs.zipIdx.map Prod.snd).map some := by
    simp only [List.map_map]
    exact List.map_congr_left fun x _ => numberInFront?_documentName x.2 (type x.1)
  rw [hnumbers, List.zipIdx_map_snd]
  exact List.Nodup.map (Option.some_injective ℕ) List.nodup_range'

lemma isName_documentName (index : ℕ) (type : Text) : IsName (documentName index type) := by
  refine RunName.isName_of_isSafe ?_ ?_ ?_
  · simp [documentName_eq]
  · intro c hc
    rw [documentName_eq] at hc
    simp only [List.mem_append, List.mem_cons] at hc
    rcases hc with hc | rfl | hc | hc
    · exact RunName.isSafe_of_isAsciiDigit (Moment.isAsciiDigit_of_mem_two hc)
    · decide
    · exact RunName.isSafe_of_mem_ofLabel hc
    · revert c
      decide
  · obtain ⟨c, digits, hdigits⟩ := List.exists_cons_of_ne_nil (Moment.two_ne_nil index)
    have hdigit : c.isAsciiDigit = true :=
      Moment.isAsciiDigit_of_mem_two (hdigits ▸ List.mem_cons_self)
    rw [documentName_eq, hdigits]
    rintro ⟨⟩
    exact absurd hdigit (by decide)

end Archive

end StructuredData
