import Mathlib.Tactic.Linarith
import Mathlib.Tactic.Ring
import StructuredData.Number.Binary64

/-!
# Integers beyond the range of floating-point numbers

An integer is given the nearest floating-point number, and beyond the largest finite one that is an
infinity.  `isFinite_ofInt_iff` says exactly where this begins: at `2 ^ 1024 - 2 ^ 970`, halfway
between the largest finite number and the power of two that would follow it.  The number halfway
itself is rounded up, because the mantissa below it is odd.

The argument follows the rounding.  `ofRatio_one` brings the number into the form of a 53-bit
mantissa and an exponent, `mantissaOf_bounds` bounds the mantissa, and `succ_le_roundHalfEven_iff`
says when a quotient is rounded up past an odd number.
-/

namespace StructuredData

namespace Binary64

/-! ## Rounding a quotient -/

lemma roundHalfEven_bounds (num den : ℕ) :
    num / den ≤ roundHalfEven num den ∧ roundHalfEven num den ≤ num / den + 1 := by
  unfold roundHalfEven
  dsimp only
  split_ifs <;> omega

/-- A quotient is rounded past an odd number exactly when it is at least halfway to the next: a tie
leaves the odd number. -/
lemma succ_le_roundHalfEven_iff (num : ℕ) {den k : ℕ} (hden : 0 < den) (hk : k % 2 = 1) :
    k + 1 ≤ roundHalfEven num den ↔ (2 * k + 1) * den ≤ 2 * num := by
  obtain ⟨hlo, hhi⟩ := roundHalfEven_bounds num den
  have hdiv : den * (num / den) + num % den = num := Nat.div_add_mod num den
  have hmod : num % den < den := Nat.mod_lt _ hden
  have hodd : (2 * k + 1) * den = 2 * (den * k) + den := by ring
  have hsucc : ∀ q, den * (q + 1) = den * q + den := fun q => by ring
  rw [hodd]
  rcases lt_trichotomy (num / den) k with hlt | heq | hgt
  · have hmul := Nat.mul_le_mul_left den (Nat.succ_le_of_lt hlt)
    rw [Nat.succ_eq_add_one, hsucc] at hmul
    constructor <;> omega
  · unfold roundHalfEven
    dsimp only
    rw [heq] at hdiv ⊢
    split_ifs <;> omega
  · have hmul := Nat.mul_le_mul_left den (Nat.succ_le_of_lt hgt)
    rw [Nat.succ_eq_add_one, hsucc] at hmul
    constructor <;> omega

/-! ## The mantissa of a natural number -/

lemma floorLog2_one {n : ℕ} (hn : n ≠ 0) : floorLog2 n 1 = n.log2 := by
  have hle : 2 ^ n.log2 ≤ n := Nat.log2_self_le hn
  have hone : Nat.log2 1 = 0 := by decide
  have hneg : (-(n.log2 : ℤ)).toNat = 0 := by omega
  simp [floorLog2, hone, hneg, Nat.shiftLeft_eq, hle]

/-- The mantissa to which a natural number is rounded. -/
def mantissaOf (n : ℕ) : ℕ :=
  roundHalfEven (n <<< (52 - n.log2)) (1 <<< (n.log2 - 52))

lemma ofRatio_one {n : ℕ} (hn : n ≠ 0) (negative : Bool) :
    ofRatio negative n 1 =
      if mantissaOf n = 2 ^ 53 then ofScaled negative (2 ^ 52) (n.log2 - 52 + 1)
      else ofScaled negative (mantissaOf n) (n.log2 - 52) := by
  have hmax : max ((n.log2 : ℤ) - 52) (-1074) = n.log2 - 52 := by omega
  have hneg : (-((n.log2 : ℤ) - 52)).toNat = 52 - n.log2 := by omega
  have hpos : ((n.log2 : ℤ) - 52).toNat = n.log2 - 52 := by omega
  simp only [ofRatio, hn, if_false, floorLog2_one hn, hmax, hneg, hpos]
  rfl

lemma quotient_bounds {n : ℕ} (hn : n ≠ 0) :
    2 ^ 52 ≤ n <<< (52 - n.log2) / 1 <<< (n.log2 - 52) ∧
      n <<< (52 - n.log2) / 1 <<< (n.log2 - 52) < 2 ^ 53 := by
  have hlo : 2 ^ n.log2 ≤ n := Nat.log2_self_le hn
  have hhi : n < 2 ^ (n.log2 + 1) := Nat.lt_log2_self
  rw [Nat.shiftLeft_eq, Nat.shiftLeft_eq, one_mul, Nat.le_div_iff_mul_le (by positivity),
    Nat.div_lt_iff_lt_mul (by positivity), ← pow_add, ← pow_add]
  -- one of the two shifts is by zero places
  rcases le_total n.log2 52 with hle | hge
  · have h52 : 2 ^ n.log2 * 2 ^ (52 - n.log2) = 2 ^ 52 := by
      rw [← pow_add]
      congr 1
      omega
    have h53 : 2 ^ (n.log2 + 1) * 2 ^ (52 - n.log2) = 2 ^ 53 := by
      rw [← pow_add]
      congr 1
      omega
    have hzero : n.log2 - 52 = 0 := by omega
    rw [hzero, add_zero, add_zero, ← h52, ← h53]
    exact ⟨Nat.mul_le_mul_right _ hlo, Nat.mul_lt_mul_of_pos_right hhi (by positivity)⟩
  · have hzero : 52 - n.log2 = 0 := by omega
    have h52 : 52 + (n.log2 - 52) = n.log2 := by omega
    have h53 : 53 + (n.log2 - 52) = n.log2 + 1 := by omega
    rw [hzero, pow_zero, mul_one, h52, h53]
    exact ⟨hlo, hhi⟩

lemma mantissaOf_bounds {n : ℕ} (hn : n ≠ 0) : 2 ^ 52 ≤ mantissaOf n ∧ mantissaOf n ≤ 2 ^ 53 := by
  obtain ⟨hfloor, hceil⟩ := roundHalfEven_bounds (n <<< (52 - n.log2)) (1 <<< (n.log2 - 52))
  obtain ⟨hlo, hhi⟩ := quotient_bounds hn
  unfold mantissaOf
  exact ⟨hlo.trans hfloor, by omega⟩

lemma isFinite_ofScaled (negative : Bool) (m : ℕ) (e : ℤ) :
    (ofScaled negative m e).isFinite = true ↔ IsCanonical m e := by
  unfold ofScaled
  split_ifs with h <;> simp [isFinite, h]

lemma isFinite_ofRatio_one {n : ℕ} (hn : n ≠ 0) (negative : Bool) :
    (ofRatio negative n 1).isFinite = true ↔
      n.log2 < 1023 ∨ n.log2 = 1023 ∧ mantissaOf n < 2 ^ 53 := by
  obtain ⟨hlo, hhi⟩ := mantissaOf_bounds hn
  rw [ofRatio_one hn]
  split_ifs with h <;> rw [isFinite_ofScaled] <;> unfold IsCanonical <;>
    simp only [Nat.pow_eq] <;> omega

/-- With more than 53 bits, a number is rounded up to the next power of two from halfway on. -/
lemma mantissaOf_lt_iff {n k : ℕ} (hn : n.log2 = 53 + k) :
    mantissaOf n < 2 ^ 53 ↔ n < (2 ^ 54 - 1) * 2 ^ k := by
  have hround := succ_le_roundHalfEven_iff n (Nat.two_pow_pos (k + 1))
    (show (2 ^ 53 - 1) % 2 = 1 by decide)
  have hdown : 52 - n.log2 = 0 := by omega
  have hup : n.log2 - 52 = k + 1 := by omega
  have hm : mantissaOf n = roundHalfEven n (2 ^ (k + 1)) := by
    simp [mantissaOf, hdown, hup, Nat.shiftLeft_eq]
  rw [pow_succ 2 k] at hround hm
  rw [hm]
  omega

/-- `(2 ^ 54 - 1) * 2 ^ k` lies halfway between `2 ^ (54 + k)` and the number of 53 bits before it;
the numbers below are told by their length and their mantissa. -/
lemma lt_halfway_iff {n : ℕ} (hn : n ≠ 0) (k : ℕ) :
    n < (2 ^ 54 - 1) * 2 ^ k ↔
      n.log2 < 53 + k ∨ n.log2 = 53 + k ∧ mantissaOf n < 2 ^ 53 := by
  have hpos : 0 < 2 ^ k := Nat.two_pow_pos k
  have hshort : n.log2 < 53 + k ↔ n < 2 ^ 53 * 2 ^ k := by
    rw [← pow_add]
    exact Nat.log2_lt hn
  have hlong : n.log2 < 54 + k ↔ n < 2 ^ 54 * 2 ^ k := by
    rw [← pow_add]
    exact Nat.log2_lt hn
  by_cases heq : n.log2 = 53 + k
  · rw [mantissaOf_lt_iff heq]
    omega
  · generalize 2 ^ k = unit at hpos hshort hlong ⊢
    omega

/-! ## The bound -/

/-- The least magnitude that is rounded beyond the finite numbers: halfway between the largest of
them and `2 ^ 1024`. -/
def overflowBound : ℕ := 2 ^ 1024 - 2 ^ 970

lemma overflowBound_eq : overflowBound = (2 ^ 54 - 1) * 2 ^ 970 := by
  have h : (2 : ℕ) ^ 1024 = 2 ^ 54 * 2 ^ 970 := by rw [← pow_add]
  rw [overflowBound, h, Nat.sub_mul, one_mul]

lemma overflowBound_pos : 0 < overflowBound := by
  rw [overflowBound_eq]
  exact Nat.mul_pos (by decide) (pow_pos (by decide) 970)

/-- The number nearest to an integer is finite exactly below the bound. -/
theorem isFinite_ofInt_iff (n : ℤ) : (ofInt n).isFinite = true ↔ n.natAbs < overflowBound := by
  rcases eq_or_ne n.natAbs 0 with hzero | hne
  · simpa [ofInt, ofRatio, hzero, zero, isFinite] using overflowBound_pos
  · rw [ofInt, isFinite_ofRatio_one hne, overflowBound_eq]
    exact (lt_halfway_iff hne 970).symm

lemma not_isFinite_ofInt_iff (n : ℤ) :
    ¬ (ofInt n).isFinite = true ↔ overflowBound ≤ n.natAbs := by
  rw [isFinite_ofInt_iff, not_lt]

end Binary64

end StructuredData
