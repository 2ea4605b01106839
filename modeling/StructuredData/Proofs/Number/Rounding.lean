import Mathlib.Algebra.Order.Field.Power
import Mathlib.Data.Int.Log
import Mathlib.Data.Nat.Log
import Mathlib.Data.Rat.Floor
import Mathlib.Tactic.FieldSimp
import Mathlib.Tactic.Positivity
import StructuredData.Proofs.Number.Overflow

/-!
# Rounding looks at the value alone

A quotient is rounded to the nearest floating-point number, and the result depends on the value of
the quotient only, not on how it is written (`ofRatio_congr`).  Three consequences are needed to
read numbers back: a value that is a floating-point number is not changed (`ofRatio_of_eq`), what is
written in decimal is rounded as the quotient that it stands for (`ofDecimal_eq_ofRatio`), although
huge and tiny exponents are settled without a quotient, and a number and its opposite are rounded
alike (`ofDecimal_not`).
-/

namespace StructuredData

namespace Binary64

variable {num den num' den' m digits width : ℕ} {e exponent : ℤ} {negative : Bool}

/-! ## The power of two below a quotient -/

lemma shiftLeft_le_iff (k : ℤ) (hden : 0 < den) :
    den <<< k.toNat ≤ num <<< (-k).toNat ↔ (2 : ℚ) ^ k ≤ (num : ℚ) / den := by
  have hpos : (0 : ℚ) < den := Nat.cast_pos.mpr hden
  rw [le_div_iff₀ hpos, Nat.shiftLeft_eq, Nat.shiftLeft_eq, ← Nat.cast_le (α := ℚ)]
  push_cast
  -- one of the two shifts is by zero places
  rcases le_total 0 k with hk | hk
  · obtain ⟨n, rfl⟩ := Int.eq_ofNat_of_zero_le hk
    simp [mul_comm]
  · obtain ⟨n, hn⟩ := Int.eq_ofNat_of_zero_le (neg_nonneg.mpr hk)
    obtain rfl : k = -n := by omega
    have htwo : (0 : ℚ) < 2 ^ n := by positivity
    simp only [Int.toNat_neg_natCast, pow_zero, mul_one, neg_neg, Int.toNat_natCast, zpow_neg,
      zpow_natCast]
    rw [inv_mul_le_iff₀ htwo, mul_comm]

lemma quotient_lt (hden : den ≠ 0) :
    (num : ℚ) / den < 2 ^ ((num.log2 : ℤ) - den.log2 + 1) := by
  have hden' : (0 : ℚ) < den := Nat.cast_pos.mpr (Nat.pos_of_ne_zero hden)
  have hlo : (2 : ℚ) ^ den.log2 ≤ den := by exact_mod_cast Nat.log2_self_le hden
  have hhi : (num : ℚ) < 2 ^ (num.log2 + 1) := by exact_mod_cast Nat.lt_log2_self
  have hexponent : (num.log2 : ℤ) - den.log2 + 1 = ((num.log2 + 1 : ℕ) : ℤ) - (den.log2 : ℕ) := by
    push_cast
    ring
  rw [div_lt_iff₀ hden', hexponent, zpow_sub₀ two_ne_zero, zpow_natCast, zpow_natCast]
  calc (num : ℚ) < 2 ^ (num.log2 + 1) := hhi
    _ = 2 ^ (num.log2 + 1) / 2 ^ den.log2 * 2 ^ den.log2 := by field_simp
    _ ≤ 2 ^ (num.log2 + 1) / 2 ^ den.log2 * den := by gcongr

lemma le_quotient (hnum : num ≠ 0) (hden : den ≠ 0) :
    (2 : ℚ) ^ ((num.log2 : ℤ) - den.log2 - 1) ≤ (num : ℚ) / den := by
  have hden' : (0 : ℚ) < den := Nat.cast_pos.mpr (Nat.pos_of_ne_zero hden)
  have hlo : (2 : ℚ) ^ num.log2 ≤ num := by exact_mod_cast Nat.log2_self_le hnum
  have hhi : (den : ℚ) < 2 ^ (den.log2 + 1) := by exact_mod_cast Nat.lt_log2_self
  have hexponent : (num.log2 : ℤ) - den.log2 - 1 = (num.log2 : ℕ) - ((den.log2 + 1 : ℕ) : ℤ) := by
    push_cast
    ring
  rw [le_div_iff₀ hden', hexponent, zpow_sub₀ two_ne_zero, zpow_natCast, zpow_natCast]
  calc (2 : ℚ) ^ num.log2 / 2 ^ (den.log2 + 1) * den
      ≤ 2 ^ num.log2 / 2 ^ (den.log2 + 1) * 2 ^ (den.log2 + 1) := by gcongr
    _ = 2 ^ num.log2 := by field_simp
    _ ≤ num := hlo

lemma lt_two_zpow_iff {x : ℚ} (hx : 0 < x) (k : ℤ) : x < 2 ^ k ↔ Int.log 2 x < k := by
  rw [← Int.lt_zpow_iff_log_lt one_lt_two hx, Nat.cast_ofNat]

lemma two_zpow_le_iff {x : ℚ} (hx : 0 < x) (k : ℤ) : 2 ^ k ≤ x ↔ k ≤ Int.log 2 x := by
  rw [← Int.zpow_le_iff_le_log one_lt_two hx, Nat.cast_ofNat]

/-- The estimate from the lengths of both numbers is one too large at most, and is mended then. -/
lemma floorLog2_eq_log (hnum : num ≠ 0) (hden : den ≠ 0) :
    floorLog2 num den = Int.log 2 ((num : ℚ) / den) := by
  have hden' : 0 < den := Nat.pos_of_ne_zero hden
  have hpos : (0 : ℚ) < (num : ℚ) / den := by
    have hnum' := Nat.pos_of_ne_zero hnum
    positivity
  have hhi := (lt_two_zpow_iff hpos _).mp (quotient_lt hden)
  have hlo := (two_zpow_le_iff hpos _).mp (le_quotient hnum hden)
  have hmend : den <<< ((num.log2 : ℤ) - den.log2).toNat ≤
      num <<< (-((num.log2 : ℤ) - den.log2)).toNat ↔
        (num.log2 : ℤ) - den.log2 ≤ Int.log 2 ((num : ℚ) / den) := by
    rw [shiftLeft_le_iff _ hden', two_zpow_le_iff hpos]
  unfold floorLog2
  dsimp only
  by_cases hle : den <<< ((num.log2 : ℤ) - den.log2).toNat ≤
      num <<< (-((num.log2 : ℤ) - den.log2)).toNat
  · rw [if_pos hle]
    have := hmend.mp hle
    omega
  · rw [if_neg hle]
    have := mt hmend.mpr hle
    omega

/-! ## Quotients of one value -/

lemma roundHalfEven_mul {c : ℕ} (hc : 0 < c) (num den : ℕ) :
    roundHalfEven (num * c) (den * c) = roundHalfEven num den := by
  have hless : ∀ a b : ℕ, a * c < b * c ↔ a < b := fun a b => Nat.mul_lt_mul_right hc
  have htwice : 2 * (num % den * c) = 2 * (num % den) * c := (Nat.mul_assoc _ _ _).symm
  unfold roundHalfEven
  simp only [Nat.mul_div_mul_right _ _ hc, Nat.mul_mod_mul_right, htwice, hless]

lemma roundHalfEven_congr (h : num * den' = num' * den) (hden : 0 < den) (hden' : 0 < den') :
    roundHalfEven num den = roundHalfEven num' den' := by
  calc roundHalfEven num den = roundHalfEven (num * den') (den * den') :=
        (roundHalfEven_mul hden' _ _).symm
    _ = roundHalfEven (num' * den) (den' * den) := by rw [h, Nat.mul_comm den]
    _ = roundHalfEven num' den' := roundHalfEven_mul hden _ _

/-- Quotients of the same value are rounded to the same number. -/
theorem ofRatio_congr (hden : 0 < den) (hden' : 0 < den')
    (h : (num : ℚ) / den = (num' : ℚ) / den') :
    ofRatio negative num den = ofRatio negative num' den' := by
  have hcross : num * den' = num' * den := by
    have hne : (den : ℚ) ≠ 0 := by positivity
    have hne' : (den' : ℚ) ≠ 0 := by positivity
    rw [div_eq_div_iff hne hne'] at h
    exact_mod_cast h
  by_cases hzero : num = 0
  · have hzero' : num' = 0 := by
      rw [hzero, Nat.zero_mul] at hcross
      exact (Nat.mul_eq_zero.mp hcross.symm).resolve_right hden.ne'
    rw [hzero, hzero', ofRatio, ofRatio, if_pos rfl, if_pos rfl]
  · have hne' : num' ≠ 0 := by
      rintro rfl
      rw [Nat.zero_mul] at hcross
      exact hzero ((Nat.mul_eq_zero.mp hcross).resolve_right hden'.ne')
    have hlog : floorLog2 num den = floorLog2 num' den' := by
      rw [floorLog2_eq_log hzero hden.ne', floorLog2_eq_log hne' hden'.ne', h]
    have hround : ∀ a b : ℕ, roundHalfEven (num <<< a) (den <<< b) =
        roundHalfEven (num' <<< a) (den' <<< b) := by
      intro a b
      simp only [Nat.shiftLeft_eq]
      refine roundHalfEven_congr ?_ (by positivity) (by positivity)
      calc num * 2 ^ a * (den' * 2 ^ b) = num * den' * (2 ^ a * 2 ^ b) := by ring
        _ = num' * 2 ^ a * (den * 2 ^ b) := by rw [hcross]; ring
    simp only [ofRatio, hzero, hne', if_false, hlog, hround]

/-! ## Values that are numbers -/

lemma roundHalfEven_of_eq (h : num = m * den) (hden : 0 < den) : roundHalfEven num den = m := by
  have hquotient : num / den = m := by rw [h, Nat.mul_div_cancel _ hden]
  have hremainder : num % den = 0 := by rw [h, Nat.mul_mod_left]
  unfold roundHalfEven
  dsimp only
  rw [hquotient, hremainder, Nat.mul_zero, if_pos hden]

lemma log_of_isCanonical (h : IsCanonical m e) (hm : m ≠ 0) :
    max (Int.log 2 ((m : ℚ) * 2 ^ e) - 52) (-1074) = e := by
  have hpos : (0 : ℚ) < m * 2 ^ e := by
    have hm' := Nat.pos_of_ne_zero hm
    positivity
  have hsplit : ∀ k : ℕ, (2 : ℚ) ^ ((k : ℤ) + e) = 2 ^ k * 2 ^ e := by
    intro k
    rw [zpow_add₀ two_ne_zero, zpow_natCast]
  have hlog : ∀ k : ℕ, Int.log 2 ((m : ℚ) * 2 ^ e) < k + e ↔ m < 2 ^ k := by
    intro k
    rw [← lt_two_zpow_iff hpos, hsplit, mul_lt_mul_iff_of_pos_right (by positivity)]
    norm_cast
  obtain ⟨hless, hmin, -, hfull⟩ := h
  rw [Nat.pow_eq] at hless hfull
  have hupper := (hlog 53).mpr hless
  have hlower := hlog 52
  push_cast at hupper hlower
  omega

/-- A quotient that has the value of a number is rounded to this number. -/
theorem ofRatio_of_eq (h : IsCanonical m e) (hden : 0 < den)
    (hvalue : (num : ℚ) / den = m * 2 ^ e) :
    ofRatio negative num den = if m = 0 then zero negative else .finite negative m e h := by
  have hpos : (0 : ℚ) < den := Nat.cast_pos.mpr hden
  have htwo : (0 : ℚ) < 2 ^ e := by positivity
  by_cases hm : m = 0
  · have hnum : num = 0 := by
      rw [hm, Nat.cast_zero, zero_mul, div_eq_zero_iff] at hvalue
      exact_mod_cast hvalue.resolve_right hpos.ne'
    rw [hnum, if_pos hm, ofRatio, if_pos rfl]
  · have hnum : num ≠ 0 := by
      rintro rfl
      rw [Nat.cast_zero, zero_div] at hvalue
      have hm' : (m : ℚ) ≠ 0 := Nat.cast_ne_zero.mpr hm
      exact (mul_ne_zero hm' htwo.ne') hvalue.symm
    have hexponent : max (floorLog2 num den - 52) (-1074) = e := by
      rw [floorLog2_eq_log hnum hden.ne', hvalue]
      exact log_of_isCanonical h hm
    -- the quotient that is rounded is the mantissa itself
    have hmantissa : num <<< (-e).toNat = m * (den <<< e.toNat) := by
      have hshift : (2 : ℚ) ^ e * 2 ^ (-e).toNat = 2 ^ e.toNat := by
        rw [← zpow_natCast, ← zpow_natCast, ← zpow_add₀ two_ne_zero]
        congr 1
        omega
      rw [div_eq_iff hpos.ne'] at hvalue
      rw [Nat.shiftLeft_eq, Nat.shiftLeft_eq, ← Nat.cast_inj (R := ℚ)]
      push_cast
      rw [hvalue, ← hshift]
      ring
    have hround : roundHalfEven (num <<< (-e).toNat) (den <<< e.toNat) = m :=
      roundHalfEven_of_eq hmantissa (by rw [Nat.shiftLeft_eq]; positivity)
    have hless : m ≠ Nat.pow 2 53 := h.1.ne
    simp only [ofRatio, hnum, if_false, hexponent, hround, hless, hm]
    rw [ofScaled, dif_pos h]

/-! ## Values out of range -/

lemma ofRatio_of_large (hden : 0 < den) (h : (2 : ℚ) ^ (1024 : ℤ) ≤ (num : ℚ) / den) :
    ofRatio negative num den = .infinity negative := by
  have hpos : (0 : ℚ) < (num : ℚ) / den := lt_of_lt_of_le (by positivity) h
  have hnum : num ≠ 0 := by
    rintro rfl
    rw [Nat.cast_zero, zero_div] at hpos
    exact lt_irrefl 0 hpos
  have hlog : 1024 ≤ floorLog2 num den := by
    rw [floorLog2_eq_log hnum hden.ne']
    exact (two_zpow_le_iff hpos _).mp h
  have hnone : ∀ m k, 971 < k → ofScaled negative m k = .infinity negative := by
    intro m k hk
    have hcanonical : ¬ IsCanonical m k := fun hc => absurd hc.2.2.1 (by omega)
    rw [ofScaled, dif_neg hcanonical]
  simp only [ofRatio, hnum, if_false]
  split_ifs
  · exact hnone _ _ (by omega)
  · exact hnone _ _ (by omega)

lemma two_mul_shiftLeft_lt (hden : 0 < den) (k : ℕ)
    (h : (num : ℚ) / den < 2 ^ (-(k + 1 : ℕ) : ℤ)) : 2 * (num <<< k) < den := by
  have hden' : (0 : ℚ) < den := Nat.cast_pos.mpr hden
  rw [div_lt_iff₀ hden', zpow_neg, lt_inv_mul_iff₀ (by positivity), zpow_natCast] at h
  have hnat : 2 ^ (k + 1) * num < den := by exact_mod_cast h
  calc 2 * (num <<< k) = 2 ^ (k + 1) * num := by rw [Nat.shiftLeft_eq]; ring
    _ < den := hnat

lemma ofRatio_of_small (hden : 0 < den) (h : (num : ℚ) / den < 2 ^ (-1075 : ℤ)) :
    ofRatio negative num den = zero negative := by
  by_cases hnum : num = 0
  · rw [ofRatio, if_pos hnum]
  · have hpos : (0 : ℚ) < (num : ℚ) / den := by
      have hnum' := Nat.pos_of_ne_zero hnum
      positivity
    have hlog : floorLog2 num den < -1075 := by
      rw [floorLog2_eq_log hnum hden.ne']
      exact (lt_two_zpow_iff hpos _).mp h
    have hexponent : max (floorLog2 num den - 52) (-1074) = -1074 := by omega
    have hless : 2 * (num <<< 1074) < den := two_mul_shiftLeft_lt hden 1074 h
    have hzero : roundHalfEven (num <<< 1074) den = 0 := by
      have hsmall : num <<< 1074 < den := by omega
      unfold roundHalfEven
      dsimp only
      rw [Nat.div_eq_of_lt hsmall, Nat.mod_eq_of_lt hsmall, if_pos hless]
    have hnat : (1074 : ℤ).toNat = 1074 := rfl
    have hneg : (-1074 : ℤ).toNat = 0 := rfl
    simp only [ofRatio, hnum, if_false, hexponent, neg_neg, hnat, hneg, Nat.shiftLeft_zero, hzero]
    rfl

/-! ## Decimals -/

lemma two_zpow_le_ten_zpow : (2 : ℚ) ^ (1024 : ℤ) ≤ 10 ^ (312 : ℤ) := by
  have h : 2 ^ 1024 ≤ 10 ^ 312 := by decide +kernel
  exact_mod_cast h

lemma ten_zpow_le_two_zpow : (10 : ℚ) ^ (-330 : ℤ) ≤ 2 ^ (-1075 : ℤ) := by
  have h : 2 ^ 1075 ≤ 10 ^ 330 := by decide +kernel
  rw [zpow_neg, zpow_neg]
  exact inv_anti₀ (by positivity) (by exact_mod_cast h)

/-- A decimal is rounded as a quotient of the same value. -/
theorem ofDecimal_eq_ofRatio (hdigits : digits < 10 ^ width) (hden : 0 < den)
    (hvalue : (num : ℚ) / den = digits * 10 ^ exponent) :
    ofDecimal negative digits width exponent = ofRatio negative num den := by
  have hpos : (0 : ℚ) < den := Nat.cast_pos.mpr hden
  unfold ofDecimal
  by_cases hzero : digits = 0
  · have hnum : num = 0 := by
      rw [hzero, Nat.cast_zero, zero_mul, div_eq_zero_iff] at hvalue
      exact_mod_cast hvalue.resolve_right hpos.ne'
    rw [if_pos hzero, hnum, ofRatio, if_pos rfl]
  rw [if_neg hzero]
  by_cases hlarge : 311 < exponent
  · rw [if_pos hlarge]
    refine (ofRatio_of_large hden ?_).symm
    have hone : (1 : ℚ) ≤ digits := by exact_mod_cast Nat.one_le_iff_ne_zero.mpr hzero
    have hten : (0 : ℚ) < 10 ^ exponent := by positivity
    calc (2 : ℚ) ^ (1024 : ℤ) ≤ 10 ^ (312 : ℤ) := two_zpow_le_ten_zpow
      _ ≤ 10 ^ exponent := zpow_le_zpow_right₀ (by norm_num) hlarge
      _ ≤ digits * 10 ^ exponent := le_mul_of_one_le_left hten.le hone
      _ = (num : ℚ) / den := hvalue.symm
  rw [if_neg hlarge]
  by_cases hsmall : (width : ℤ) + exponent < -330
  · rw [if_pos hsmall]
    refine (ofRatio_of_small hden ?_).symm
    have hless : (digits : ℚ) < 10 ^ width := by exact_mod_cast hdigits
    have hten : (0 : ℚ) < 10 ^ exponent := by positivity
    calc (num : ℚ) / den = digits * 10 ^ exponent := hvalue
      _ < 10 ^ width * 10 ^ exponent := mul_lt_mul_of_pos_right hless hten
      _ = 10 ^ ((width : ℤ) + exponent) := by rw [zpow_add₀ (by norm_num), zpow_natCast]
      _ ≤ 10 ^ (-330 : ℤ) := zpow_le_zpow_right₀ (by norm_num) hsmall.le
      _ ≤ 2 ^ (-1075 : ℤ) := ten_zpow_le_two_zpow
  rw [if_neg hsmall]
  by_cases hexponent : 0 ≤ exponent
  · rw [if_pos hexponent]
    refine ofRatio_congr Nat.one_pos hden ?_
    obtain ⟨k, rfl⟩ := Int.eq_ofNat_of_zero_le hexponent
    rw [hvalue]
    simp
  · rw [if_neg hexponent]
    refine ofRatio_congr (by rw [Nat.pow_eq]; positivity) hden ?_
    obtain ⟨k, hk⟩ := Int.eq_ofNat_of_zero_le (neg_nonneg.mpr (not_le.mp hexponent).le)
    obtain rfl : exponent = -k := by omega
    rw [hvalue]
    simp [div_eq_mul_inv]

/-- Decimals of the same value are rounded to the same number. -/
lemma ofDecimal_congr {digits' width' : ℕ} {exponent' : ℤ} (hdigits : digits < 10 ^ width)
    (hdigits' : digits' < 10 ^ width')
    (hvalue : (digits : ℚ) * 10 ^ exponent = digits' * 10 ^ exponent') :
    ofDecimal negative digits width exponent = ofDecimal negative digits' width' exponent' := by
  have hquotient : ((digits * 10 ^ exponent.toNat : ℕ) : ℚ) / (10 ^ (-exponent).toNat : ℕ) =
      digits * 10 ^ exponent := by
    have hsplit : (10 : ℚ) ^ exponent = 10 ^ exponent.toNat / 10 ^ (-exponent).toNat := by
      rw [← zpow_natCast, ← zpow_natCast, ← zpow_sub₀ (by norm_num)]
      congr 1
      omega
    rw [hsplit]
    push_cast
    rw [mul_div_assoc]
  have hden : 0 < 10 ^ (-exponent).toNat := by positivity
  rw [ofDecimal_eq_ofRatio hdigits hden hquotient,
    ofDecimal_eq_ofRatio hdigits' hden (hquotient.trans hvalue)]

/-! ## The other sign -/

lemma ofRatio_not : ofRatio (!negative) num den = (ofRatio negative num den).negate := by
  have hscaled : ∀ m k, ofScaled (!negative) m k = (ofScaled negative m k).negate := by
    intro m k
    unfold ofScaled
    split_ifs <;> rfl
  unfold ofRatio
  dsimp only
  split_ifs
  · rfl
  · exact hscaled _ _
  · exact hscaled _ _

lemma ofDecimal_not :
    ofDecimal (!negative) digits width exponent =
      (ofDecimal negative digits width exponent).negate := by
  unfold ofDecimal
  split_ifs
  · rfl
  · rfl
  · rfl
  · exact ofRatio_not
  · exact ofRatio_not

end Binary64

end StructuredData
