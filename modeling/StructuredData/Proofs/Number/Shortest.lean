import Mathlib.Data.List.TakeWhile
import StructuredData.Proofs.Number.Decimal
import StructuredData.Proofs.Number.Rounding

/-!
# Shortest decimals read back

A finite number is written in a decimal that is rounded to the number again
(`toBinary64_shortest`).  The search returns what reads back as soon as it finds it, and the number
itself, which is a decimal too, where it finds nothing; so it does not matter here how far it looks.

The digits are then laid out with a point or with an exponent.  A `Spelling` is what a reader finds
in such a text, digits in front of the point, digits behind it and an exponent.  `layout_eq` says
that the text is a spelling, and `value_spelling` that the spelling has the value of the decimal.
-/

namespace StructuredData

/-! ## The search -/

namespace Decimal

open Binary64

variable {m count total : ℕ} {e : ℤ} {target : Binary64} {negative : Bool}

lemma search_reads (hcount : toBinary64 false ⟨count, -1074⟩ = target) (fuel places : ℕ) :
    toBinary64 false (search target count total fuel places) = target := by
  induction fuel generalizing places with
  | zero => exact hcount
  | succ fuel ih =>
    rw [search]
    dsimp only
    split_ifs with hnear hfar
    · exact hnear
    · exact hfar
    · exact ih (places + 1)

lemma width_eq (n : ℕ) : width n = (Text.ofNat n).length := by
  rw [width, Text.ofNat, List.length_map]

lemma lt_ten_pow_width (n : ℕ) : n < 10 ^ width n := by
  have hpos : 0 < (Text.ofNat n).length := List.length_pos_iff.mpr (Text.ofNat_ne_nil n)
  rw [width_eq]
  exact (Text.length_ofNat_le_iff hpos).mp le_rfl

/-- `2 ^ -k` is `5 ^ k` times `10 ^ -k`. -/
lemma shiftLeft_mul_pow_div {k : ℕ} (hk : 0 ≤ e + k) :
    ((m <<< (e + k).toNat * 5 ^ k : ℕ) : ℚ) / (10 ^ k : ℕ) = m * 2 ^ e := by
  have hshift : (2 : ℚ) ^ (e + k).toNat = 2 ^ e * 2 ^ k := by
    rw [← zpow_natCast, Int.toNat_of_nonneg hk, zpow_add₀ two_ne_zero, zpow_natCast]
  have hten : (10 : ℚ) ^ k = 2 ^ k * 5 ^ k := by
    rw [← mul_pow]
    norm_num
  rw [Nat.shiftLeft_eq]
  push_cast
  rw [hshift, hten]
  field_simp

/-- A number that is a count of `2 ^ -k` is also a decimal with `k` places behind the point. -/
lemma toBinary64_count (h : IsCanonical m e) (hm : m ≠ 0) (k : ℕ) (hk : 0 ≤ e + k) :
    toBinary64 false ⟨m <<< (e + k).toNat * Nat.pow 5 k, -k⟩ = .finite false m e h := by
  have hvalue := shiftLeft_mul_pow_div (m := m) hk
  have hpos : 0 < 10 ^ k := Nat.pow_pos (by decide)
  unfold toBinary64
  dsimp only
  rw [Nat.pow_eq, ofDecimal_eq_ofRatio (lt_ten_pow_width _) hpos, ofRatio_of_eq h hpos hvalue,
    if_neg hm]
  rw [div_eq_mul_inv, zpow_neg, zpow_natCast, Nat.cast_pow, Nat.cast_ofNat]

lemma toBinary64_not (negative : Bool) (d : Decimal) :
    toBinary64 (!negative) d = (toBinary64 negative d).negate :=
  ofDecimal_not

/-- The shortest decimal of a number is rounded to the number. -/
theorem toBinary64_shortest (h : IsCanonical m e) (hm : m ≠ 0) :
    toBinary64 negative (shortest m e) = .finite negative m e h := by
  have hscaled : ofScaled false m e = .finite false m e h := by
    rw [ofScaled, dif_pos h]
  have hreads : toBinary64 false (shortest m e) = .finite false m e h := by
    unfold shortest
    rw [hscaled]
    refine search_reads ?_ 17 1
    have hleast := h.2.1
    have hplaces : (1074 : ℤ) = (1074 : ℕ) := rfl
    rw [hplaces] at hleast ⊢
    generalize (1074 : ℕ) = places at hleast ⊢
    exact toBinary64_count h hm places (by omega)
  cases negative with
  | false => exact hreads
  | true =>
    calc toBinary64 true (shortest m e) = (toBinary64 false (shortest m e)).negate :=
          toBinary64_not false _
      _ = .finite true m e h := by rw [hreads]; rfl

lemma digits_shortest_ne_zero (h : IsCanonical m e) (hm : m ≠ 0) : (shortest m e).digits ≠ 0 := by
  intro hzero
  have hreads : toBinary64 false (shortest m e) = .finite false m e h := toBinary64_shortest h hm
  rw [toBinary64, ofDecimal, if_pos hzero] at hreads
  cases hreads
  exact hm rfl

end Decimal

/-! ## Spellings -/

/-- A written number without its sign: the digits in front of the point and those behind it, and
the sign and the digits of an exponent. -/
structure Spelling where
  whole : Text
  fraction : Text
  exponent : Option (Bool × Text)

namespace Spelling

/-- The point and the digits behind it, nothing where there are none. -/
def fractionText (s : Spelling) : Text := if s.fraction.isEmpty then [] else "." ++ s.fraction

/-- The exponent with its sign, nothing where there is none. -/
def exponentText (s : Spelling) : Text :=
  match s.exponent with
  | none => []
  | some (negative, digits) =>
    let sign : Text := if negative then "-" else "+"
    "e" ++ sign ++ digits

/-- The text of a spelling. -/
def text (s : Spelling) : Text := s.whole ++ s.fractionText ++ s.exponentText

/-- The exponent as a number. -/
def exponentValue (s : Spelling) : ℤ :=
  match s.exponent with
  | none => 0
  | some (negative, digits) => if negative then -digits.digitsValue else digits.digitsValue

/-- The number that is read from a spelling. -/
def value (negative : Bool) (s : Spelling) : Binary64 :=
  Binary64.ofDigitRows negative s.whole s.fraction s.exponentValue

/-- A spelling that is read as a floating-point number: digits everywhere, no zero in front of
other digits, and not an integer. -/
structure IsFloat (s : Spelling) : Prop where
  whole_ne_nil : s.whole ≠ []
  whole_digits : ∀ c ∈ s.whole, c.isAsciiDigit = true
  zero_alone : s.whole.head? = some (CodePoint.ofChar '0') → s.whole = [CodePoint.ofChar '0']
  fraction_digits : ∀ c ∈ s.fraction, c.isAsciiDigit = true
  exponent_digits : ∀ part ∈ s.exponent, part.2 ≠ [] ∧ ∀ c ∈ part.2, c.isAsciiDigit = true
  not_integer : s.fraction ≠ [] ∨ s.exponent ≠ none

variable {s : Spelling} {digits : Text} {point : ℤ} {negative : Bool}

/-- The value is that of the digits, to which zeros may have been added. -/
lemma value_eq (h : s.IsFloat) (hdigits : ∀ c ∈ digits, c.isAsciiDigit = true) (zeros : ℕ)
    (hrow : (s.whole ++ s.fraction).digitsValue = digits.digitsValue * 10 ^ zeros)
    (hplace : s.exponentValue - s.fraction.length + zeros = point - digits.length) :
    s.value negative =
      Binary64.ofDecimal negative digits.digitsValue digits.length (point - digits.length) := by
  have hall : ∀ c ∈ s.whole ++ s.fraction, c.isAsciiDigit = true :=
    List.forall_mem_append.mpr ⟨h.whole_digits, h.fraction_digits⟩
  refine Binary64.ofDecimal_congr (Text.digitsValue_lt hall) (Text.digitsValue_lt hdigits) ?_
  rw [hrow, ← hplace, zpow_add₀ (by norm_num), zpow_natCast]
  push_cast
  ring

end Spelling

/-! ## Layout -/

namespace Decimal

variable {digits : Text} {point : ℤ}

/-- Digits as they are laid out: there are some, and the first of them is no zero. -/
structure IsNormal (digits : Text) : Prop where
  ne_nil : digits ≠ []
  all_digits : ∀ c ∈ digits, c.isAsciiDigit = true
  no_zero : digits.head? ≠ some (CodePoint.ofChar '0')

/-- The text is a spelling of the digits with the point at its place. -/
def Spells (t digits : Text) (point : ℤ) : Prop :=
  ∃ s : Spelling, t = s.text ∧ s.IsFloat ∧ ∀ negative, s.value negative =
    Binary64.ofDecimal negative digits.digitsValue digits.length (point - digits.length)

lemma zero_ne_nil : Text.ofString "0" ≠ [] := by decide

lemma isAsciiDigit_of_mem_zero : ∀ c ∈ Text.ofString "0", c.isAsciiDigit = true := by decide

lemma isAsciiDigit_of_mem_zeros {k : ℕ} {c : CodePoint}
    (hc : c ∈ List.replicate k (CodePoint.ofChar '0')) : c.isAsciiDigit = true := by
  rw [List.eq_of_mem_replicate hc]
  decide

/-- A point in front of all digits. -/
lemma spells_below (h : IsNormal digits) (hpoint : point ≤ 0) :
    Spells ("0." ++ List.replicate (-point).toNat (CodePoint.ofChar '0') ++ digits) digits
      point := by
  have hfloat : Spelling.IsFloat
      ⟨"0", List.replicate (-point).toNat (CodePoint.ofChar '0') ++ digits, none⟩ := by
    refine ⟨zero_ne_nil, isAsciiDigit_of_mem_zero, fun _ => rfl, ?_, by simp,
      .inl (List.append_ne_nil_of_right_ne_nil _ h.ne_nil)⟩
    exact List.forall_mem_append.mpr ⟨fun c => isAsciiDigit_of_mem_zeros, h.all_digits⟩
  refine ⟨_, ?_, hfloat, fun negative => Spelling.value_eq hfloat h.all_digits 0 ?_ ?_⟩
  · simp [Spelling.text, Spelling.fractionText, Spelling.exponentText, h.ne_nil, Text.ofString]
  · rw [← List.append_assoc, pow_zero, mul_one]
    exact Text.digitsValue_zeros_append ((-point).toNat + 1) digits
  · simp only [Spelling.exponentValue, List.length_append, List.length_replicate]
    omega

/-- A point behind all digits. -/
lemma spells_above (h : IsNormal digits) (hpoint : digits.length ≤ point) :
    Spells (digits ++ List.replicate (point - digits.length).toNat (CodePoint.ofChar '0') ++ ".0")
      digits point := by
  have hhead : (digits ++ List.replicate (point - digits.length).toNat
      (CodePoint.ofChar '0')).head? = digits.head? := by
    rw [List.head?_append, Option.or_of_isSome (by simpa using h.ne_nil)]
  have hfloat : Spelling.IsFloat
      ⟨digits ++ List.replicate (point - digits.length).toNat (CodePoint.ofChar '0'), "0",
        none⟩ := by
    refine ⟨List.append_ne_nil_of_left_ne_nil h.ne_nil _, ?_, fun hzero => ?_,
      isAsciiDigit_of_mem_zero, by simp, .inl zero_ne_nil⟩
    · exact List.forall_mem_append.mpr ⟨h.all_digits, fun c => isAsciiDigit_of_mem_zeros⟩
    · exact absurd (hhead ▸ hzero) h.no_zero
  refine ⟨_, ?_, hfloat, fun negative => Spelling.value_eq hfloat h.all_digits
    ((point - digits.length).toNat + 1) ?_ ?_⟩
  · simp [Spelling.text, Spelling.fractionText, Spelling.exponentText, Text.ofString]
  · rw [List.append_assoc, ← Text.digitsValue_append_zeros, List.replicate_succ']
    rfl
  · have hone : Text.ofString "0" = [CodePoint.ofChar '0'] := rfl
    simp only [Spelling.exponentValue, hone, List.length_singleton]
    omega

/-- A point among the digits. -/
lemma spells_within (h : IsNormal digits) (hpos : 0 < point) (hpoint : point < digits.length) :
    Spells (digits.take point.toNat ++ "." ++ digits.drop point.toNat) digits point := by
  have hhead : (digits.take point.toNat).head? = digits.head? := by
    rw [List.head?_take, if_neg (by omega)]
  have hfraction : digits.drop point.toNat ≠ [] := by
    rw [Ne, List.drop_eq_nil_iff]
    omega
  have hfloat : Spelling.IsFloat ⟨digits.take point.toNat, digits.drop point.toNat, none⟩ := by
    refine ⟨?_, fun c hc => h.all_digits c (List.mem_of_mem_take hc), fun hzero => ?_,
      fun c hc => h.all_digits c (List.mem_of_mem_drop hc), by simp, .inl hfraction⟩
    · rw [Ne, List.take_eq_nil_iff, not_or]
      exact ⟨by omega, h.ne_nil⟩
    · exact absurd (hhead ▸ hzero) h.no_zero
  refine ⟨_, ?_, hfloat, fun negative => Spelling.value_eq hfloat h.all_digits 0 ?_ ?_⟩
  · rw [Spelling.text, Spelling.fractionText, if_neg (by simpa using hfraction),
      Spelling.exponentText, List.append_nil, List.append_assoc]
  · rw [List.take_append_drop, pow_zero, mul_one]
  · simp only [Spelling.exponentValue, List.length_drop]
    omega

/-- One digit in front of the point, and an exponent. -/
lemma spells_exponent (h : IsNormal digits) :
    let rest : Text := digits.drop 1
    let fraction : Text := if rest.isEmpty then [] else "." ++ rest
    let sign : Text := if point - 1 < 0 then "-" else "+"
    Spells (digits.take 1 ++ fraction ++ "e" ++ sign ++
      Text.padLeft '0' 2 (Text.ofNat (point - 1).natAbs)) digits point := by
  have hhead : (digits.take 1).head? = digits.head? := by
    rw [List.head?_take, if_neg (by decide)]
  have hfloat : Spelling.IsFloat ⟨digits.take 1, digits.drop 1,
      some (decide (point - 1 < 0), Text.padLeft '0' 2 (Text.ofNat (point - 1).natAbs))⟩ := by
    refine ⟨?_, fun c hc => h.all_digits c (List.mem_of_mem_take hc), fun hzero => ?_,
      fun c hc => h.all_digits c (List.mem_of_mem_drop hc), ?_, .inr nofun⟩
    · rw [Ne, List.take_eq_nil_iff, not_or]
      exact ⟨by decide, h.ne_nil⟩
    · exact absurd (hhead ▸ hzero) h.no_zero
    · rintro part ⟨⟩
      refine ⟨List.append_ne_nil_of_right_ne_nil _ (Text.ofNat_ne_nil _), ?_⟩
      exact List.forall_mem_append.mpr ⟨fun c => isAsciiDigit_of_mem_zeros,
        fun c => Text.isAsciiDigit_of_mem_ofNat⟩
  refine ⟨_, ?_, hfloat, fun negative => Spelling.value_eq hfloat h.all_digits 0 ?_ ?_⟩
  · simp [Spelling.text, Spelling.fractionText, Spelling.exponentText]
  · rw [List.take_append_drop, pow_zero, mul_one]
  · have hlength := List.length_pos_iff.mpr h.ne_nil
    simp only [Spelling.exponentValue, List.length_drop, Text.digitsValue_padLeft,
      Text.digitsValue_ofNat, decide_eq_true_eq]
    split_ifs <;> omega

/-- Digits laid out are a spelling of the digits. -/
lemma spells_layout (h : IsNormal digits) (point : ℤ) :
    Spells (layout digits point) digits point := by
  unfold layout
  dsimp only
  by_cases hpositional : -4 < point ∧ point ≤ 16
  · rw [if_pos hpositional]
    split_ifs with hbelow habove
    · exact spells_below h hbelow
    · exact spells_above h habove
    · exact spells_within h (not_le.mp hbelow) (not_le.mp habove)
  · rw [if_neg hpositional]
    exact spells_exponent h

/-! ## Without trailing zeros -/

/-- What the normal form leaves out of the digits are zeros. -/
lemma exists_zeros (d : Decimal) : ∃ zeros, Text.ofNat d.digits =
    d.normalForm.1 ++ List.replicate zeros (CodePoint.ofChar '0') := by
  let isZero (c : CodePoint) : Bool := c = CodePoint.ofChar '0'
  let back := (Text.ofNat d.digits).reverse
  have hzeros : back.takeWhile isZero =
      List.replicate (back.takeWhile isZero).length (CodePoint.ofChar '0') := by
    refine List.eq_replicate_of_mem fun c hc => ?_
    have hzero := List.mem_takeWhile_imp hc
    simpa [isZero] using hzero
  refine ⟨(back.takeWhile isZero).length, ?_⟩
  calc Text.ofNat d.digits = (back.takeWhile isZero ++ back.dropWhile isZero).reverse := by
        rw [List.takeWhile_append_dropWhile, List.reverse_reverse]
    _ = (back.dropWhile isZero).reverse ++ (back.takeWhile isZero).reverse :=
        List.reverse_append
    _ = d.normalForm.1 ++ List.replicate _ (CodePoint.ofChar '0') := by
        rw [hzeros, List.reverse_replicate, List.length_replicate]
        rfl

/-- The digits of a number without the zeros at their end. -/
lemma exists_normalForm {d : Decimal} (hd : d.digits ≠ 0) :
    ∃ (digits : Text) (zeros : ℕ), d.normalForm = (digits, digits.length + zeros + d.exponent) ∧
      IsNormal digits ∧ d.digits = digits.digitsValue * 10 ^ zeros := by
  obtain ⟨zeros, hsplit⟩ := exists_zeros d
  have hvalue : d.digits = d.normalForm.1.digitsValue * 10 ^ zeros := by
    rw [← Text.digitsValue_append_zeros, ← hsplit, Text.digitsValue_ofNat]
  have hne : d.normalForm.1 ≠ [] := by
    intro hnil
    rw [hnil] at hvalue
    exact hd (hvalue.trans (Nat.zero_mul _))
  refine ⟨d.normalForm.1, zeros, ?_, ⟨hne, fun c hc => ?_, fun hzero => ?_⟩, hvalue⟩
  · refine Prod.ext rfl ?_
    have hlength := congrArg List.length hsplit
    rw [List.length_append, List.length_replicate] at hlength
    simp only [normalForm] at hlength ⊢
    omega
  · exact Text.isAsciiDigit_of_mem_ofNat (hsplit ▸ List.mem_append_left _ hc)
  · refine hd (Text.head?_ofNat_eq_zero_iff.mp ?_)
    rw [hsplit, List.head?_append, hzero]
    rfl

end Decimal

namespace Binary64

variable {m : ℕ} {e : ℤ}

/-- A finite number is written with its sign and a spelling that is read as the number. -/
theorem exists_spelling_text (style : NumberStyle) (negative : Bool) (h : IsCanonical m e) :
    ∃ s : Spelling, (Binary64.finite negative m e h).text style =
        (if negative then "-" else "") ++ s.text ∧
      s.IsFloat ∧ s.value negative = .finite negative m e h := by
  by_cases hm : m = 0
  · subst hm
    obtain rfl : e = -1074 := by
      obtain ⟨-, -, -, hfull | hleast⟩ := h
      · exact absurd hfull (by decide)
      · exact hleast
    exact ⟨⟨"0", "0", none⟩, rfl, ⟨by decide, by decide, fun _ => rfl, by decide, by simp,
      .inl (by decide)⟩, rfl⟩
  · obtain ⟨digits, zeros, hform, hnormal, hdigits⟩ :=
      Decimal.exists_normalForm (Decimal.digits_shortest_ne_zero h hm)
    obtain ⟨s, htext, hfloat, hvalue⟩ :=
      Decimal.spells_layout hnormal (digits.length + zeros + (Decimal.shortest m e).exponent)
    refine ⟨s, ?_, hfloat, ?_⟩
    · rw [Binary64.text, if_neg hm, hform, ← htext]
    · rw [hvalue, ← Decimal.toBinary64_shortest h hm, Decimal.toBinary64]
      refine ofDecimal_congr (Text.digitsValue_lt hnormal.all_digits)
        (Decimal.lt_ten_pow_width _) ?_
      have hplace : (digits.length : ℤ) + zeros + (Decimal.shortest m e).exponent - digits.length =
          zeros + (Decimal.shortest m e).exponent := by ring
      rw [hplace, zpow_add₀ (by norm_num), zpow_natCast, hdigits]
      push_cast
      ring

end Binary64

end StructuredData
