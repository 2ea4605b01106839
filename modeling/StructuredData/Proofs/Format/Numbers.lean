import Mathlib.Algebra.Order.Ring.Int
import Mathlib.Tactic.Ring
import StructuredData.Proofs.Format.Addresses
import StructuredData.Proofs.Number.Decimal

/-!
# Formats of numbers

A number is held against a format by its digits, and a floating-point number that is whole by the
digits of the integer.  So formats see the value of a whole number and not its kind.  Which numbers
a format accepts is a matter of their size and sign: prices are the numbers that are not negative,
telephone numbers and postal codes those of certain lengths, and no other format accepts any.  This
is `formats_by_value`.
-/

namespace StructuredData

/-! ## Values of numbers -/

namespace Binary64

variable {x : Binary64} {n : ℤ}

/-- A natural number with a sign. -/
def signed (negative : Bool) (k : ℕ) : ℤ := if negative then -k else k

lemma signed_mul (negative : Bool) (k l : ℕ) : signed negative (k * l) = signed negative k * l := by
  cases negative <;> simp [signed]

lemma natAbs_signed (negative : Bool) (k : ℕ) : (signed negative k).natAbs = k := by
  cases negative <;> simp [signed]

/-- A number is a multiple of a power of two if its magnitude can be divided by the power, and only
then. -/
lemma signed_mul_pow_eq_iff (negative : Bool) (m a b : ℕ) :
    signed negative (m * 2 ^ a) = n * (2 ^ (b + a) : ℕ) ↔
      m % 2 ^ b = 0 ∧ signed negative (m / 2 ^ b) = n := by
  have hne (k : ℕ) : ((2 ^ k : ℕ) : ℤ) ≠ 0 :=
    Int.natCast_ne_zero.mpr (Nat.pow_pos (by decide)).ne'
  have hcancel : signed negative (m * 2 ^ a) = n * (2 ^ (b + a) : ℕ) ↔
      signed negative m = n * (2 ^ b : ℕ) := by
    rw [signed_mul, Nat.pow_add, Nat.cast_mul, ← mul_assoc, mul_left_inj' (hne a)]
  rw [hcancel]
  constructor
  · intro h
    have hm : m = n.natAbs * 2 ^ b := by
      rw [← natAbs_signed negative m, h, Int.natAbs_mul, Int.natAbs_natCast]
    rw [hm, signed_mul, mul_left_inj' (hne b)] at h
    rw [hm, Nat.mul_mod_left, Nat.mul_div_cancel _ (Nat.pow_pos (by decide))]
    exact ⟨rfl, h⟩
  · rintro ⟨hdivides, rfl⟩
    rw [← signed_mul, Nat.div_mul_cancel (Nat.dvd_of_mod_eq_zero hdivides)]

/-- A number is read as an integer if it has the value of the integer, and only then. -/
lemma toInt?_eq_some_iff : x.toInt? = some n ↔ x.scaled? = some (scaledInt n) := by
  cases x with
  | nan => simp [toInt?, scaled?]
  | infinity negative => simp [toInt?, scaled?]
  | finite negative m e hcanonical =>
    have hleast := hcanonical.2.1
    have hscaled : (finite negative m e hcanonical).scaled? =
        some (signed negative (m * 2 ^ (e + 1074).toNat)) := by
      rw [← Nat.shiftLeft_eq]
      rfl
    have htoInt : (finite negative m e hcanonical).toInt? =
        if 0 ≤ e then some (signed negative (m * 2 ^ e.toNat))
        else if m % 2 ^ (-e).toNat = 0 then some (signed negative (m / 2 ^ (-e).toNat))
        else none := by
      rw [← Nat.shiftLeft_eq, ← Nat.shiftRight_eq_div_pow]
      rfl
    rw [hscaled, htoInt, Option.some.injEq]
    unfold scaledInt
    -- the places in front of the point and those behind it, one of which is always zero
    generalize hplaces : (1074 : ℕ) = places
    have hsplit : places = (-e).toNat + (places - (-e).toNat) := by omega
    have hexponent : (e + 1074).toNat = e.toNat + (places - (-e).toNat) := by omega
    rw [Nat.pow_eq, hsplit, hexponent, Nat.pow_add, ← Nat.mul_assoc, signed_mul_pow_eq_iff]
    split_ifs with hwhole hdivides
    · have hnone : (-e).toNat = 0 := by omega
      rw [hnone, pow_zero, Nat.mod_one, Nat.div_one, Option.some.injEq, and_iff_right rfl]
    · have hnone : e.toNat = 0 := by omega
      rw [hnone, pow_zero, Nat.mul_one, Option.some.injEq, and_iff_right hdivides]
    · have hnone : e.toNat = 0 := by omega
      rw [hnone, pow_zero, Nat.mul_one]
      simp [hdivides]

end Binary64

/-! ## Digits of integers -/

namespace Text

variable {n : ℤ} {c : CodePoint}

lemma isAsciiDigit_or_eq_of_mem_ofInt (h : c ∈ ofInt n) :
    c.isAsciiDigit = true ∨ c = CodePoint.ofChar '-' := by
  cases n with
  | ofNat k => exact .inl (isAsciiDigit_of_mem_ofNat h)
  | negSucc k =>
    rcases List.mem_cons.mp h with rfl | h
    · exact .inr rfl
    · exact .inl (isAsciiDigit_of_mem_ofNat h)

/-- Only the first code point of an integer can be a sign. -/
lemma isAsciiDigit_of_mem_tail_ofInt (h : c ∈ (ofInt n).tail) : c.isAsciiDigit = true := by
  cases n with
  | ofNat k => exact isAsciiDigit_of_mem_ofNat (List.mem_of_mem_tail h)
  | negSucc k => exact isAsciiDigit_of_mem_ofNat h

lemma notMem_ofInt (hdigit : c.isAsciiDigit = false) (hne : c ≠ CodePoint.ofChar '-') :
    c ∉ ofInt n := by
  intro hmem
  rcases isAsciiDigit_or_eq_of_mem_ofInt hmem with h | h
  · rw [h] at hdigit
    exact absurd hdigit (by decide)
  · exact hne h

lemma dropNewline_ofInt (n : ℤ) : (ofInt n).dropNewline = ofInt n := by
  refine if_neg fun hlast => ?_
  exact notMem_ofInt (by decide) (by decide) (List.mem_of_getLast? hlast)

end Text

namespace Format

variable {f : Format} {n : ℤ} {t : Text} {c : CodePoint}

/-! ## Formats with digits -/

lemma hasFormat_ofInt (n : ℤ) (f : Format) :
    (Value.ofInt n).hasFormat f = (Value.string (Text.ofInt n)).hasFormat f := rfl

/-- An integer is written in ASCII and without a line feed, so that neither liberty of the formats
makes a difference to it. -/
lemma hasFormat_ofInt_iff {IsForm : (CodePoint → Bool) → Text → Prop} (hform : IsDigitForm IsForm)
    (hstart : f.fromStart = true)
    (hreads : ∀ head rest, f.pattern.Reads head rest ↔
      IsForm CodePoint.isDigit head ∧ (rest = [] ∨ rest = [Text.newline])) :
    (Value.ofInt n).hasFormat f = true ↔ IsForm CodePoint.isAsciiDigit (Text.ofInt n) := by
  have hplain : IsPlainText (Text.ofInt n) := by
    refine isPlainText_of_holds fun c hc => (Text.isAsciiDigit_or_eq_of_mem_ofInt hc).imp_right ?_
    rintro rfl
    decide
  rw [hasFormat_ofInt, (isNearlyStrict hform hstart hreads (Text.ofInt n)).2, and_iff_left hplain]

/-- A code point that is no digit stands at most in front of an integer. -/
lemma ofInt_ne_append {front back : Text} (hfront : front ≠ []) (hc : c ∈ back)
    (hdigit : c.isAsciiDigit = false) : Text.ofInt n ≠ front ++ back := by
  intro hsplit
  have hmem : c ∈ (Text.ofInt n).tail := by
    rw [hsplit, List.tail_append_of_ne_nil hfront]
    exact List.mem_append_right _ hc
  rw [Text.isAsciiDigit_of_mem_tail_ofInt hmem] at hdigit
  exact absurd hdigit (by decide)

lemma not_isDate_ofInt : ¬ IsDate CodePoint.isAsciiDigit (Text.ofInt n) := by
  rintro ⟨year, month, day, clock, hsplit, ⟨hyear, -⟩, -⟩
  simp only [List.append_assoc] at hsplit
  have hne : year ≠ [] := List.length_pos_iff.mp (by omega)
  have hhyphen : CodePoint.ofChar '-' ∈ ("-" : Text) ++ (month ++ ("-" ++ (day ++ clock))) :=
    List.mem_cons_self
  exact ofInt_ne_append hne hhyphen (by decide) hsplit

lemma not_isCurrency_ofInt : ¬ IsCurrency (Text.ofInt n) := by
  rintro ⟨hlength, hletters⟩
  obtain ⟨c, hc⟩ := List.exists_mem_of_length_pos (l := Text.ofInt n) (by omega)
  have hupper := hletters c hc
  rcases Text.isAsciiDigit_or_eq_of_mem_ofInt hc with hdigit | rfl
  · simp only [CodePoint.isAsciiUpper, CodePoint.isAsciiDigit, Bool.and_eq_true,
      decide_eq_true_eq] at hupper hdigit
    omega
  · exact absurd hupper (by decide)

lemma isPrice_ofInt_iff : IsPrice CodePoint.isAsciiDigit (Text.ofInt n) ↔ 0 ≤ n := by
  cases n with
  | ofNat k =>
    refine iff_of_true ?_ (Int.natCast_nonneg k)
    exact ⟨Text.ofNat k, [], (List.append_nil _).symm, Text.ofNat_ne_nil k,
      fun c => Text.isAsciiDigit_of_mem_ofNat, .inl rfl⟩
  | negSucc k =>
    refine iff_of_false ?_ (by omega)
    rintro ⟨whole, cents, hsplit, hne, hwhole, -⟩
    obtain ⟨rfl, -⟩ | ⟨later, rfl, -⟩ := List.cons_eq_append_iff.mp hsplit
    · exact hne rfl
    · exact absurd (hwhole _ List.mem_cons_self) (by decide)

/-- What the first digit of a natural number and the number of the others tell. -/
lemma exists_first_ofNat (k : ℕ) : ∃ first later, Text.ofNat k = first :: later ∧
    first.isAsciiDigit = true ∧ (∀ c ∈ later, c.isAsciiDigit = true) ∧
    (first = CodePoint.ofChar '0' ↔ k = 0) ∧ (later.length ≤ 15 ↔ k < 10 ^ 16) := by
  obtain ⟨first, later, hdigits⟩ := List.exists_cons_of_ne_nil (Text.ofNat_ne_nil k)
  have hall : ∀ c ∈ first :: later, c.isAsciiDigit = true := by
    intro c hc
    exact Text.isAsciiDigit_of_mem_ofNat (hdigits ▸ hc)
  obtain ⟨hfirst, hlater⟩ := List.forall_mem_cons.mp hall
  have hzero := Text.head?_ofNat_eq_zero_iff (n := k)
  have hlength := Text.length_ofNat_le_iff (n := k) (by decide : 0 < 16)
  rw [hdigits, List.head?_cons, Option.some.injEq] at hzero
  rw [hdigits, List.length_cons, Nat.add_le_add_iff_right] at hlength
  exact ⟨first, later, hdigits, hfirst, hlater, hzero, hlength⟩

lemma isPhone_ofInt_iff :
    IsPhone CodePoint.isAsciiDigit (Text.ofInt n) ↔ 1 ≤ n ∧ n ≤ 10 ^ 16 - 1 := by
  constructor
  · rintro ⟨sign, first, later, hsplit, rfl | rfl, hfirst, hne, -, hlength⟩
    · cases n with
      | ofNat k =>
        obtain ⟨first', later', hdigits, -, -, hzero, hbound⟩ := exists_first_ofNat k
        obtain ⟨rfl, rfl⟩ := List.cons.inj (hdigits.symm.trans hsplit)
        rw [ne_eq, hzero] at hne
        rw [hbound] at hlength
        rw [Int.ofNat_eq_natCast]
        omega
      | negSucc k =>
        obtain ⟨rfl, -⟩ := List.cons.inj hsplit
        exact absurd hfirst (by decide)
    · -- an integer has no plus sign in front
      have hplus : CodePoint.ofChar '+' ∈ Text.ofInt n := by
        rw [hsplit]
        exact List.mem_cons_self
      exact absurd hplus (Text.notMem_ofInt (by decide) (by decide))
  · rintro ⟨hleast, hmost⟩
    obtain ⟨k, rfl⟩ := Int.eq_ofNat_of_zero_le (by omega : 0 ≤ n)
    obtain ⟨first, later, hdigits, hfirst, hlater, hzero, hbound⟩ := exists_first_ofNat k
    exact ⟨[], first, later, hdigits, .inl rfl, hfirst, fun h => absurd (hzero.mp h) (by omega),
      hlater, hbound.mpr (by omega)⟩

/-! ## Formats by length -/

/-- A postal code may hold all that an integer is written with. -/
lemma isPostalCode_ofInt_iff :
    IsPostalCode (Text.ofInt n) ↔ 3 ≤ (Text.ofInt n).length ∧ (Text.ofInt n).length ≤ 10 := by
  unfold IsPostalCode
  rw [← and_assoc, and_iff_left]
  intro c hc
  exact (Text.isAsciiDigit_or_eq_of_mem_ofInt hc).imp_right .inl

lemma hasFormat_postalCode_ofInt_iff :
    (Value.ofInt n).hasFormat .postalCode = true ↔
      100 ≤ n ∧ n ≤ 9999999999 ∨ -999999999 ≤ n ∧ n ≤ -10 := by
  rw [hasFormat_ofInt, hasFormat_postalCode_iff, Text.dropNewline_ofInt, or_self,
    isPostalCode_ofInt_iff]
  cases n with
  | ofNat k =>
    have hlength : (Text.ofInt (.ofNat k)).length = (Text.ofNat k).length := rfl
    have htwo := Text.length_ofNat_le_iff (n := k) (by decide : 0 < 2)
    have hten := Text.length_ofNat_le_iff (n := k) (by decide : 0 < 10)
    rw [hlength, Int.ofNat_eq_natCast]
    omega
  | negSucc k =>
    -- the sign is one more place
    have hlength : (Text.ofInt (.negSucc k)).length = (Text.ofNat (k + 1)).length + 1 := rfl
    have hone := Text.length_ofNat_le_iff (n := k + 1) (by decide : 0 < 1)
    have hnine := Text.length_ofNat_le_iff (n := k + 1) (by decide : 0 < 9)
    rw [hlength]
    omega

/-! ## Formats with signs -/

open Pattern

/-- What starts with the scheme of a web address holds its letters. -/
lemma mem_of_fits_webScheme {a : Pattern} (h : (Pattern.seq webScheme a).fits t = true) :
    CodePoint.ofChar 'h' ∈ t := by
  obtain ⟨_, rest, rfl, _, later, rfl, ⟨first, _, rfl, hfirst, -⟩, -⟩ := fits_iff.mp h
  obtain rfl := reads_word.mp hfirst
  simp [Text.ofString]

lemma IsImageEnding.point_mem (h : IsImageEnding t) : CodePoint.ofChar '.' ∈ t := by
  obtain ⟨extension, -, rfl | ⟨query, rfl, -⟩⟩ := h
  · exact List.mem_append_left _ List.mem_cons_self
  · simp [Text.ofString]

/-- Formats other than those of digits and the postal code hold a sign that no integer has. -/
lemma hasFormat_ofInt_eq_false (hf : f ∈ [url, email, date, imageUrl, schemaContext, currency]) :
    (Value.ofInt n).hasFormat f = false := by
  rw [Bool.eq_false_iff]
  intro h
  simp only [List.mem_cons, List.not_mem_nil, or_false] at hf
  rcases hf with rfl | rfl | rfl | rfl | rfl | rfl
  · exact Text.notMem_ofInt (by decide) (by decide) (mem_of_fits_webScheme h)
  · rw [hasFormat_ofInt, hasFormat_email_iff, Text.dropNewline_ofInt] at h
    have hat := List.count_pos_iff.mp (h.2.1 ▸ Nat.one_pos)
    exact Text.notMem_ofInt (by decide) (by decide) hat
  · exact not_isDate_ofInt ((hasFormat_ofInt_iff isDigitForm_date rfl fun _ _ => reads_date).mp h)
  · rw [hasFormat_ofInt, hasFormat_imageUrl_iff, Text.dropNewline_ofInt] at h
    obtain ⟨front, ending, hsplit, hending⟩ := h
    have hpoint : CodePoint.ofChar '.' ∈ Text.ofInt n := by
      rw [hsplit]
      exact List.mem_append_right _ hending.point_mem
    exact Text.notMem_ofInt (by decide) (by decide) hpoint
  · exact Text.notMem_ofInt (by decide) (by decide) (mem_of_fits_webScheme h)
  · exact not_isCurrency_ofInt
      ((hasFormat_ofInt_iff isDigitForm_currency rfl fun _ _ => reads_currency).mp h)

/-! ## Formats by value -/

/-- A floating-point number that is whole is held against formats as the integer of its value. -/
lemma hasFormat_float_eq {x : Binary64} (hx : x.scaled? = some (Binary64.scaledInt n))
    (f : Format) : (Value.number (.float x)).hasFormat f = (Value.ofInt n).hasFormat f := by
  have hint := Binary64.toInt?_eq_some_iff.mpr hx
  have htext : (Value.number (.float x)).plainText? = some (Text.ofInt n) := by
    simp only [Value.plainText?, hint]
  unfold Value.hasFormat
  rw [htext]
  rfl

/-- An integer and a floating-point number of the same value have the same formats.  They have the
format of prices if the value is not negative, those of telephone numbers and postal codes if it
lies in certain bounds, and no other. -/
theorem formats_by_value (n : ℤ) :
    (∀ x : Binary64, x.scaled? = some (Binary64.scaledInt n) →
      ∀ f, (Value.number (.float x)).hasFormat f = (Value.ofInt n).hasFormat f) ∧
    ((Value.ofInt n).hasFormat .price = true ↔ 0 ≤ n) ∧
    ((Value.ofInt n).hasFormat .phone = true ↔ 1 ≤ n ∧ n ≤ 10 ^ 16 - 1) ∧
    ((Value.ofInt n).hasFormat .postalCode = true ↔
      100 ≤ n ∧ n ≤ 9999999999 ∨ -999999999 ≤ n ∧ n ≤ -10) ∧
    ∀ f ∈ [url, email, date, imageUrl, schemaContext, currency],
      (Value.ofInt n).hasFormat f = false := by
  refine ⟨fun x hx => hasFormat_float_eq hx, ?_, ?_, hasFormat_postalCode_ofInt_iff,
    fun f hf => hasFormat_ofInt_eq_false hf⟩
  · rw [hasFormat_ofInt_iff isDigitForm_price rfl fun _ _ => reads_price, isPrice_ofInt_iff]
  · rw [hasFormat_ofInt_iff isDigitForm_phone rfl fun _ _ => reads_phone, isPhone_ofInt_iff]

/-- The negative zero has the formats of `0`, and `1e22` has those of an integer of 23 digits. -/
theorem formats_of_zero_and_1e22 :
    (∀ f, (Value.number (.float (.zero true))).hasFormat f = (Value.ofInt 0).hasFormat f) ∧
    (∀ f, (Value.number (.float (.finite false 4768371582031250 21 (by decide)))).hasFormat f =
      (Value.ofInt (10 ^ 22)).hasFormat f) ∧
    (∀ f ∈ [url, email, date, imageUrl, schemaContext, currency],
      (Value.ofInt 0).hasFormat f = false) := by
  have hzero : (Binary64.zero true).scaled? = some (Binary64.scaledInt 0) := by
    rw [Binary64.scaledInt, Int.zero_mul]
    rfl
  have hlarge : (Binary64.finite false 4768371582031250 21 (by decide)).toInt? =
      some (10 ^ 22) := rfl
  exact ⟨(formats_by_value 0).1 _ hzero,
    (formats_by_value (10 ^ 22)).1 _ (Binary64.toInt?_eq_some_iff.mp hlarge),
    (formats_by_value 0).2.2.2.2⟩

end Format

end StructuredData
