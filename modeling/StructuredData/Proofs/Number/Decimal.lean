import Mathlib.Algebra.Group.Nat.Even
import Mathlib.Order.Nat
import Mathlib.Tactic.Common
import Mathlib.Tactic.Ring
import StructuredData.Number.Reading

/-!
# Decimal digits

A natural number is written with digits only, with no zero in front unless it is zero, and with as
many digits as its size asks for.  Reading its digits gives the number back, whether or not zeros
are put in front of them, and so different numbers are written differently.  Digits that are read in
two parts count as in one, the first part shifted by the length of the second.
-/

namespace StructuredData

namespace Text

variable {m n : ℕ} {c : CodePoint}

/-- Reading the digits of a number gives the number. -/
lemma digitsValue_ofNat (n : ℕ) : digitsValue (ofNat n) = n := by
  have hchars := Nat.ofDigitChars_toDigits (n := n) (by decide : 1 < 10) le_rfl
  unfold digitsValue ofDigitValues ofNat
  rw [List.map_map, List.foldl_map]
  exact hchars

lemma ofNat_injective : Function.Injective ofNat :=
  Function.LeftInverse.injective digitsValue_ofNat

lemma isAsciiDigit_of_mem_ofNat (h : c ∈ ofNat n) : c.isAsciiDigit = true := by
  obtain ⟨d, hd, rfl⟩ := List.mem_map.mp h
  have hdigit := Nat.isDigit_of_mem_toDigits (by decide) le_rfl hd
  simp only [Char.isDigit, Bool.and_eq_true, decide_eq_true_eq, UInt32.le_iff_toNat_le] at hdigit
  exact (Bool.and_eq_true _ _).mpr ⟨decide_eq_true hdigit.1, decide_eq_true hdigit.2⟩

lemma length_ofNat_le_iff {k : ℕ} (hk : 0 < k) : (ofNat n).length ≤ k ↔ n < 10 ^ k := by
  unfold ofNat
  rw [List.length_map]
  exact Nat.length_toDigits_le_iff (by decide) hk

lemma ofNat_ne_nil (n : ℕ) : ofNat n ≠ [] := by
  unfold ofNat
  rw [Nat.toDigits_eq_if (by decide)]
  split_ifs <;> simp

/-- Only zero is written with a zero in front. -/
lemma head?_ofNat_eq_zero_iff : (ofNat n).head? = some (CodePoint.ofChar '0') ↔ n = 0 := by
  induction n using Nat.strongRecOn with
  | _ n ih =>
    by_cases hn : n < 10
    · have hsmall : ∀ m < 10, (ofNat m).head? = some (CodePoint.ofChar '0') ↔ m = 0 := by decide
      exact hsmall n hn
    · have hdigits : ofNat n = ofNat (n / 10) ++ [CodePoint.ofChar (n % 10).digitChar] := by
        unfold ofNat
        rw [Nat.toDigits_eq_if (by decide), if_neg hn, List.map_append, List.map_singleton]
      rw [hdigits, List.head?_append, Option.or_of_isSome (by simpa using ofNat_ne_nil (n / 10)),
        ih (n / 10) (by omega)]
      omega

/-! ## Rows of digits -/

lemma digitsValue_append (t t' : Text) :
    digitsValue (t ++ t') = digitsValue t * 10 ^ t'.length + digitsValue t' := by
  have hfold : ∀ (ds : List ℕ) (start : ℕ), ds.foldl (fun n d => 10 * n + d) start =
      start * 10 ^ ds.length + ds.foldl (fun n d => 10 * n + d) 0 := by
    intro ds
    induction ds with
    | nil => simp
    | cons d ds ih =>
      intro start
      rw [List.foldl_cons, List.foldl_cons, ih, ih (10 * 0 + d), List.length_cons]
      ring
  unfold digitsValue ofDigitValues
  rw [List.map_append, List.foldl_append, hfold, List.length_map]

lemma digitsValue_zeros (k : ℕ) : digitsValue (List.replicate k (CodePoint.ofChar '0')) = 0 := by
  induction k with
  | zero => rfl
  | succ k ih => exact ih

lemma digitsValue_zeros_append (k : ℕ) (t : Text) :
    digitsValue (List.replicate k (CodePoint.ofChar '0') ++ t) = digitsValue t := by
  rw [digitsValue_append, digitsValue_zeros, Nat.zero_mul, Nat.zero_add]

lemma digitsValue_append_zeros (k : ℕ) (t : Text) :
    digitsValue (t ++ List.replicate k (CodePoint.ofChar '0')) = digitsValue t * 10 ^ k := by
  rw [digitsValue_append, digitsValue_zeros, Nat.add_zero, List.length_replicate]

lemma digitsValue_padLeft (width : ℕ) (t : Text) :
    digitsValue (padLeft '0' width t) = digitsValue t :=
  digitsValue_zeros_append _ t

/-- So many digits write a number below the power of ten. -/
lemma digitsValue_lt {t : Text} (h : ∀ c ∈ t, c.isAsciiDigit = true) :
    digitsValue t < 10 ^ t.length := by
  induction t with
  | nil => exact Nat.one_pos
  | cons c t ih =>
    obtain ⟨hc, ht⟩ := List.forall_mem_cons.mp h
    have hdigit : c.val - 48 ≤ 9 := by
      simp only [CodePoint.isAsciiDigit, Bool.and_eq_true, decide_eq_true_eq] at hc
      omega
    have hfirst : digitsValue [c] = c.val - 48 := by
      simp [digitsValue, ofDigitValues]
    have hmul := Nat.mul_le_mul_right (10 ^ t.length) hdigit
    have hrest := ih ht
    rw [← List.singleton_append, digitsValue_append, hfirst, List.length_append,
      List.length_singleton, Nat.add_comm 1, pow_succ]
    omega

end Text

end StructuredData
