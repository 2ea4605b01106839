import Mathlib.Data.List.TakeWhile
import Mathlib.Tactic.Common
import StructuredData.Proofs.Number.Decimal

/-!
# The size of integers that are read

An integer that is read from text has at most 4300 digits, and one that is a floating-point number
lies below `2 ^ 1024`.  So either can be written in 4300 digits again.
-/

namespace StructuredData

namespace Numeral

variable {t digits : Text} {previous : CodePoint} {n : ℤ}

/-- What is left of digits and low lines is digits. -/
lemma isAsciiDigit_of_dropLowLines? (h : dropLowLines? previous t = some digits)
    (ht : ∀ c ∈ t, c.isAsciiDigit = true ∨ c = CodePoint.ofChar '_') :
    ∀ c ∈ digits, c.isAsciiDigit = true := by
  induction t generalizing previous digits with
  | nil =>
    rw [dropLowLines?] at h
    split_ifs at h
    cases h
    exact List.forall_mem_nil _
  | cons c rest ih =>
    obtain ⟨hc, hrest⟩ := List.forall_mem_cons.mp ht
    rw [dropLowLines?] at h
    split_ifs at h with hline
    · exact ih h hrest
    · obtain ⟨later, hlater, rfl⟩ := Option.map_eq_some_iff.mp h
      exact List.forall_mem_cons.mpr ⟨hc.resolve_right hline, ih hlater hrest⟩

lemma natAbs_readInt_lt (h : readInt t = .ok n) : n.natAbs < 10 ^ maxIntegerDigits := by
  unfold readInt at h
  generalize sign (fold t) = signed at h
  obtain ⟨negative, body⟩ := signed
  dsimp only at h
  split at h
  · cases h
  · next digits hdigits =>
    have hall : ∀ c ∈ digits, c.isAsciiDigit = true := by
      refine isAsciiDigit_of_dropLowLines? hdigits fun c hc => ?_
      simpa using List.mem_takeWhile_imp hc
    split_ifs at h with hlong
    all_goals
      cases h
      have hvalue : Text.digitsValue digits < 10 ^ maxIntegerDigits :=
        (Text.digitsValue_lt hall).trans_le (Nat.pow_le_pow_right (by decide) (not_lt.mp hlong))
      simpa using hvalue

lemma isTooLong_eq_false_iff : isTooLong n = false ↔ n.natAbs < 10 ^ maxIntegerDigits := by
  unfold isTooLong
  rw [decide_eq_false_iff_not, not_le, Nat.pow_eq]

end Numeral

namespace Binary64

variable {x : Binary64} {n : ℤ}

/-- No mantissa of 53 bits is too long, wherever its exponent puts it. -/
lemma mul_two_pow_lt {m k : ℕ} (hm : m < 2 ^ 53) (hk : 16 + k ≤ maxIntegerDigits) :
    m * 2 ^ k < 10 ^ maxIntegerDigits := by
  have hmantissa : m < 10 ^ 16 := hm.trans (by decide)
  have hpower : 2 ^ k ≤ 10 ^ k := Nat.pow_le_pow_left (by decide) k
  calc m * 2 ^ k < 10 ^ 16 * 10 ^ k :=
        Nat.mul_lt_mul_of_lt_of_le hmantissa hpower (Nat.pow_pos (by decide))
    _ = 10 ^ (16 + k) := (Nat.pow_add 10 16 k).symm
    _ ≤ 10 ^ maxIntegerDigits := Nat.pow_le_pow_right (by decide) hk

lemma natAbs_toInt?_lt (h : x.toInt? = some n) : n.natAbs < 10 ^ maxIntegerDigits := by
  cases x with
  | nan => cases h
  | infinity => cases h
  | finite negative m e hcanonical =>
    have hmantissa := hcanonical.1
    have hexponent := hcanonical.2.2.1
    unfold toInt? at h
    dsimp -zeta only at h
    extract_lets signed at h
    have hsigned : ∀ k : ℕ, (signed k).natAbs = k := by
      intro k
      simp only [signed]
      split_ifs <;> simp
    have hroom : 16 + e.toNat ≤ maxIntegerDigits := by
      unfold maxIntegerDigits
      omega
    split_ifs at h with hwhole hdivides
    · rw [← Option.some.inj h, hsigned, Nat.shiftLeft_eq]
      exact mul_two_pow_lt hmantissa hroom
    · rw [← Option.some.inj h, hsigned, Nat.shiftRight_eq_div_pow]
      calc m / 2 ^ (-e).toNat ≤ m * 2 ^ 0 := by rw [pow_zero, mul_one]; exact Nat.div_le_self _ _
        _ < 10 ^ maxIntegerDigits := mul_two_pow_lt hmantissa (by decide)

end Binary64

end StructuredData
