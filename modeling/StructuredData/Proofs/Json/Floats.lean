import StructuredData.Proofs.Json.Lexing
import StructuredData.Proofs.Number.Shortest

/-!
# Written floating-point numbers as tokens

A floating-point number is written as a spelling with a sign, or by its name where it has no digits.
Either is one token for the reader, and the token carries the number that was written
(`lexes_float`), the zero of either sign and what is no number included.
-/

namespace StructuredData

namespace Json

variable {rest : Text} {ts : List Token} {s : Spelling}

/-! ## The parts of a spelling -/

lemma exponentPart_spelling (h : s.IsFloat) (hrest : StopsNumber rest) :
    exponentPart (s.exponentText ++ rest) =
      s.exponent.map fun _ => (s.exponentValue, s.exponentText.length) := by
  unfold Spelling.exponentText Spelling.exponentValue
  cases hexponent : s.exponent with
  | none => exact exponentPart_of_stops hrest
  | some part =>
    obtain ⟨negative, digits⟩ := part
    obtain ⟨hne, hdigits⟩ := h.exponent_digits _ hexponent
    have htake := takeWhile_digits hdigits hrest.stopsDigits
    have hempty : digits.isEmpty = false := by simpa using hne
    -- the sign of the exponent is read off in front of its digits
    cases negative
    all_goals
      simp [exponentPart, Text.ofString, CodePoint.ofChar_inj, Numeral.sign, htake, hempty]
      omega

lemma stopsDigits_exponent (s : Spelling) (hrest : StopsNumber rest) :
    StopsDigits (s.exponentText ++ rest) := by
  unfold Spelling.exponentText
  cases s.exponent with
  | none => exact hrest.stopsDigits
  | some part =>
    rintro c ⟨⟩
    decide

lemma fractionPart_spelling (h : s.IsFloat) (hrest : StopsNumber rest) :
    fractionPart (s.fractionText ++ (s.exponentText ++ rest)) = s.fraction := by
  unfold Spelling.fractionText
  by_cases hfraction : s.fraction = []
  · rw [hfraction, List.isEmpty_nil, if_pos rfl, List.nil_append]
    unfold Spelling.exponentText
    cases s.exponent with
    | none => exact fractionPart_of_stops hrest
    | some part => rfl
  · rw [if_neg (by simpa using hfraction)]
    exact takeWhile_digits h.fraction_digits (stopsDigits_exponent s hrest)

lemma stopsDigits_fraction (s : Spelling) (hrest : StopsNumber rest) :
    StopsDigits (s.fractionText ++ (s.exponentText ++ rest)) := by
  unfold Spelling.fractionText
  split_ifs
  · exact stopsDigits_exponent s hrest
  · rintro c ⟨⟩
    decide

lemma length_fractionText (s : Spelling) :
    (if s.fraction.isEmpty then 0 else 1 + s.fraction.length) = s.fractionText.length := by
  unfold Spelling.fractionText
  split_ifs
  · rfl
  · rw [List.length_append]
    rfl

/-! ## Numbers -/

/-- A spelling is read as the number that it stands for. -/
lemma number?_spelling (h : s.IsFloat) (hrest : StopsNumber rest) (negative : Bool) :
    number? (signText negative ++ s.text ++ rest) =
      some (.scalar (.number (.float (s.value negative))),
        (signText negative ++ s.text).length) := by
  obtain ⟨c, digits, hwhole⟩ := List.exists_cons_of_ne_nil h.whole_ne_nil
  have hdigit : c.isAsciiDigit = true := h.whole_digits c (hwhole ▸ List.mem_cons_self)
  have hsplit : s.text ++ rest = s.whole ++ (s.fractionText ++ (s.exponentText ++ rest)) := by
    simp only [Spelling.text, List.append_assoc]
  have hsign : (signText negative ++ s.text ++ rest).head? = some (CodePoint.ofChar '-') ↔
      negative = true := by
    cases negative with
    | true => simp [signText, Text.ofString]
    | false =>
      rw [List.append_assoc, hsplit, hwhole]
      simp only [signText, Bool.false_eq_true, if_false, iff_false]
      rintro ⟨⟩
      exact absurd hdigit (by decide)
  have hbody : (if negative then (signText negative ++ s.text ++ rest).drop 1
      else signText negative ++ s.text ++ rest) =
        s.whole ++ (s.fractionText ++ (s.exponentText ++ rest)) := by
    rw [← hsplit]
    cases negative <;> rfl
  have hlength : (if negative then 1 else 0) = (signText negative).length := by
    cases negative <;> rfl
  have hexponent : (s.exponent.map fun _ => s.exponentValue).getD 0 = s.exponentValue := by
    unfold Spelling.exponentValue
    cases s.exponent <;> rfl
  have hexponentLength : (s.exponent.map fun _ => s.exponentText.length).getD 0 =
      s.exponentText.length := by
    unfold Spelling.exponentText
    cases s.exponent <;> rfl
  have hfloat : ¬ (s.fraction.isEmpty && s.exponent.isNone) = true := by
    simpa [-not_and, not_and_or] using h.not_integer
  have hnonempty : s.whole.isEmpty = false := by simpa using h.whole_ne_nil
  have htotal : (signText negative).length + s.whole.length + s.fractionText.length +
      s.exponentText.length = (signText negative ++ s.text).length := by
    simp only [Spelling.text, List.length_append]
    omega
  have hread := whole_of_digits h.whole_ne_nil h.whole_digits h.zero_alone
    (stopsDigits_fraction s hrest)
  generalize signText negative ++ s.text ++ rest = t at hsign hbody ⊢
  simp only [number?, hsign, Bool.decide_eq_true, hbody, hlength, hread, hnonempty,
    Bool.false_eq_true, if_false, List.drop_left, fractionPart_spelling h hrest,
    length_fractionText, exponentPart_spelling h hrest, Option.isNone_map, hfloat, Option.map_map,
    Function.comp_def, hexponent, hexponentLength, htotal, Spelling.value]

/-- A floating-point number is one token. -/
lemma lexes_float (x : Binary64) (hrest : StopsNumber rest) (h : Lexes rest ts) :
    Lexes (x.text writtenNumber ++ rest) (.scalar (.number (.float x)) :: ts) := by
  cases x with
  | nan => exact lexes_head (by rintro c ⟨⟩; decide) (by decide) rfl h
  | infinity negative =>
    cases negative
    · exact lexes_head (by rintro c ⟨⟩; decide) (by decide) rfl h
    · exact lexes_head (by rintro c ⟨⟩; decide) (by decide) rfl h
  | finite negative m e hcanonical =>
    obtain ⟨s, htext, hfloat, hvalue⟩ :=
      Binary64.exists_spelling_text writtenNumber negative hcanonical
    have hnumber := number?_spelling hfloat hrest negative
    obtain ⟨c, digits, hwhole⟩ := List.exists_cons_of_ne_nil hfloat.whole_ne_nil
    have hdigit : c.isAsciiDigit = true := hfloat.whole_digits c (hwhole ▸ List.mem_cons_self)
    have hbody : ∃ c digits, s.text = c :: digits ∧ c.isAsciiDigit = true := by
      refine ⟨c, digits ++ (s.fractionText ++ s.exponentText), ?_, hdigit⟩
      rw [Spelling.text, hwhole, List.append_assoc]
      rfl
    rw [htext, ← hvalue]
    cases negative <;> exact lexes_number _ hbody hnumber h

end Json

end StructuredData
