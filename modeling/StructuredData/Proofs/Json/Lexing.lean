import Mathlib.Data.List.Basic
import StructuredData.Json.Writer
import StructuredData.Proofs.Json.Nesting
import StructuredData.Proofs.Number.Decimal

/-!
# Written words, marks and integers as tokens

What the writer puts down for a word, a mark or an integer is one token for the reader, whatever
stands behind it; only an integer needs that the text behind it does not go on with it.  `Lexes`
says that a text is cut into certain tokens, wherever it stands, and each lemma adds one token, or a
blank, in front of such a text.
-/

namespace StructuredData

lemma CodePoint.ofChar_inj {a b : Char} : CodePoint.ofChar a = CodePoint.ofChar b ↔ a = b := by
  simp [CodePoint.ofChar, Char.toNat_inj]

namespace Json

variable {rest t : Text} {ts : List Token}

/-- The text is cut into the tokens, whatever its place. -/
def Lexes (t : Text) (ts : List Token) : Prop :=
  ∀ fuel p, t.length ≤ fuel → (tokensFrom fuel p t).map Prod.snd = ts

lemma lexes_nil : Lexes [] [] := by
  intro fuel p _
  cases fuel <;> rfl

/-- A first token that takes all of the fuel that its code points bring. -/
lemma lexes_of_step {c : CodePoint}
    (h : ∀ fuel p, rest.length ≤ fuel → (tokensFrom (fuel + 1) p (c :: rest)).map Prod.snd = ts) :
    Lexes (c :: rest) ts := by
  intro fuel p hfuel
  rw [List.length_cons] at hfuel
  obtain ⟨fuel, rfl⟩ := Nat.exists_eq_add_of_le' (Nat.one_le_of_lt hfuel)
  exact h fuel p (by omega)

lemma lexes_space {c : CodePoint} (hc : isSpace c = true) (h : Lexes rest ts) :
    Lexes (c :: rest) ts := by
  refine lexes_of_step fun fuel p hfuel => ?_
  rw [tokensFrom, if_pos hc]
  exact h fuel _ hfuel

lemma lexes_spaces {blanks : Text} (hblanks : ∀ c ∈ blanks, isSpace c = true)
    (h : Lexes rest ts) : Lexes (blanks ++ rest) ts := by
  induction blanks with
  | nil => exact h
  | cons c blanks ih =>
    obtain ⟨hc, hblanks⟩ := List.forall_mem_cons.mp hblanks
    exact lexes_space hc (ih hblanks)

/-- Marks are no blanks. -/
lemma not_isSpace_of_mark? {c : CodePoint} {token : Token} (hc : mark? c = some token) :
    isSpace c = false := by
  unfold mark? at hc
  split_ifs at hc with h h h h h h
  all_goals subst h; decide

lemma lexes_mark {c : CodePoint} {token : Token} (hc : mark? c = some token)
    (h : Lexes rest ts) : Lexes (c :: rest) (token :: ts) := by
  refine lexes_of_step fun fuel p hfuel => ?_
  rw [tokensFrom, if_neg (by simp [not_isSpace_of_mark? hc]), hc]
  exact congrArg (token :: ·) (h fuel _ hfuel)

/-! ## Words and integers -/

/-- The text does not go on with a number. -/
def StopsNumber (t : Text) : Prop :=
  ∀ c, t.head? = some c →
    c.isAsciiDigit = false ∧ c ≠ CodePoint.ofChar '.' ∧ c ≠ CodePoint.ofChar 'e' ∧
      c ≠ CodePoint.ofChar 'E'

/-- Words and numbers start with none of the code points that stand for something else. -/
lemma lexes_head {head : Text} {token : Token}
    (hstart : ∀ c, head.head? = some c →
      isSpace c = false ∧ mark? c = none ∧ c ≠ CodePoint.ofChar '"')
    (hne : head ≠ [])
    (htoken : (word? (head ++ rest) <|> number? (head ++ rest)) = some (token, head.length))
    (h : Lexes rest ts) : Lexes (head ++ rest) (token :: ts) := by
  obtain ⟨c, after, rfl⟩ := List.exists_cons_of_ne_nil hne
  obtain ⟨hspace, hmark, hquote⟩ := hstart c rfl
  rw [List.cons_append] at htoken ⊢
  refine lexes_of_step fun fuel p hfuel => ?_
  rw [List.length_append] at hfuel
  rw [tokensFrom, if_neg (by simp [hspace]), hmark]
  dsimp only
  rw [if_neg hquote, htoken, ← List.cons_append]
  dsimp only
  rw [List.drop_left]
  exact congrArg (token :: ·) (h fuel _ (by omega))

lemma lexes_null (h : Lexes rest ts) : Lexes ("null" ++ rest) (.scalar .null :: ts) :=
  lexes_head (by rintro c ⟨⟩; decide) (by decide) rfl h

lemma lexes_bool (b : Bool) (h : Lexes rest ts) :
    Lexes ((if b then "true" else "false" : Text) ++ rest) (.scalar (.bool b) :: ts) := by
  cases b
  · exact lexes_head (by rintro c ⟨⟩; decide) (by decide) rfl h
  · exact lexes_head (by rintro c ⟨⟩; decide) (by decide) rfl h

/-- Digits are none of the code points that stand for something else, and start no word. -/
lemma not_word_of_isAsciiDigit {c : CodePoint} (hc : c.isAsciiDigit = true) :
    isSpace c = false ∧ mark? c = none ∧ c ≠ CodePoint.ofChar '"' ∧
      ∀ rest, word? (c :: rest) = none := by
  simp only [CodePoint.isAsciiDigit, Bool.and_eq_true, decide_eq_true_eq] at hc
  have hne : ∀ d : Char, d.toNat < 48 ∨ 57 < d.toNat → c ≠ CodePoint.ofChar d := by
    rintro d hd rfl
    change 48 ≤ d.toNat ∧ d.toNat ≤ 57 at hc
    omega
  refine ⟨?_, ?_, hne '"' (by decide), fun rest => ?_⟩
  · simp [isSpace]
    omega
  · simp [mark?, hne]
  · simp [word?, valueWords, Text.ofString, fun d hd => (hne d hd).symm]

lemma fractionPart_of_stops (h : StopsNumber rest) : fractionPart rest = [] := by
  match rest with
  | [] => rfl
  | c :: rest =>
    obtain ⟨-, hpoint, -, -⟩ := h c rfl
    exact if_neg hpoint

lemma exponentPart_of_stops (h : StopsNumber rest) : exponentPart rest = none := by
  match rest with
  | [] => rfl
  | c :: rest =>
    obtain ⟨-, -, he, hE⟩ := h c rfl
    simp [exponentPart, he, hE]

/-- The text does not go on with a digit. -/
def StopsDigits (t : Text) : Prop := ∀ c, t.head? = some c → c.isAsciiDigit = false

lemma StopsNumber.stopsDigits (h : StopsNumber t) : StopsDigits t := fun c hc => (h c hc).1

/-- The digits in front of a text that goes on with none of them. -/
lemma takeWhile_digits {digits : Text} (hdigits : ∀ c ∈ digits, c.isAsciiDigit = true)
    (hrest : StopsDigits rest) :
    (digits ++ rest).takeWhile CodePoint.isAsciiDigit = digits := by
  have hnone : rest.takeWhile CodePoint.isAsciiDigit = [] := by
    match rest with
    | [] => rfl
    | c :: rest =>
      have hdigit := hrest c rfl
      simp [hdigit]
  rw [List.takeWhile_append_of_pos hdigits, hnone, List.append_nil]

/-- Digits that start with no zero, or are a single zero, in front of a text that does not go on
with them. -/
lemma whole_of_digits {digits : Text} (hne : digits ≠ [])
    (hdigits : ∀ c ∈ digits, c.isAsciiDigit = true)
    (hzero : digits.head? = some (CodePoint.ofChar '0') → digits = [CodePoint.ofChar '0'])
    (hrest : StopsDigits rest) :
    (if (digits ++ rest).head? = some (CodePoint.ofChar '0') then (digits ++ rest).take 1
    else (digits ++ rest).takeWhile CodePoint.isAsciiDigit) = digits := by
  have hhead : (digits ++ rest).head? = digits.head? := by
    rw [List.head?_append, Option.or_of_isSome (by simpa using hne)]
  rw [hhead]
  split_ifs with hfirst
  · rw [hzero hfirst]
    rfl
  · exact takeWhile_digits hdigits hrest

/-- The digits of a number in front of a text that does not go on with it. -/
lemma whole_of_written (n : ℕ) (hrest : StopsNumber rest) :
    (if (Text.ofNat n ++ rest).head? = some (CodePoint.ofChar '0') then
      (Text.ofNat n ++ rest).take 1
    else (Text.ofNat n ++ rest).takeWhile CodePoint.isAsciiDigit) = Text.ofNat n := by
  refine whole_of_digits (Text.ofNat_ne_nil n) (fun c => Text.isAsciiDigit_of_mem_ofNat) ?_
    hrest.stopsDigits
  intro hzero
  rw [Text.head?_ofNat_eq_zero_iff.mp hzero]
  rfl

/-- A written number starts with a digit. -/
lemma exists_digit_of_written (n : ℕ) :
    ∃ c digits, Text.ofNat n = c :: digits ∧ c.isAsciiDigit = true := by
  obtain ⟨c, digits, hwritten⟩ := List.exists_cons_of_ne_nil (Text.ofNat_ne_nil n)
  exact ⟨c, digits, hwritten, Text.isAsciiDigit_of_mem_ofNat (hwritten ▸ List.mem_cons_self)⟩

lemma number?_ofInt {n : ℤ} (hn : n.natAbs < 10 ^ maxIntegerDigits) (hrest : StopsNumber rest) :
    number? (Text.ofInt n ++ rest) = some (.scalar (.ofInt n), (Text.ofInt n).length) := by
  have hdigits : ∀ m : ℕ, m < 10 ^ maxIntegerDigits → ¬ maxIntegerDigits < (Text.ofNat m).length :=
    fun m hm => not_lt.mpr ((Text.length_ofNat_le_iff (by decide)).mpr hm)
  have hempty : ∀ m : ℕ, (Text.ofNat m).isEmpty = false := by
    simp [Text.ofNat_ne_nil]
  cases n with
  | ofNat n =>
    have hsign : (Text.ofNat n ++ rest).head? ≠ some (CodePoint.ofChar '-') := by
      obtain ⟨c, digits, hwritten, hdigit⟩ := exists_digit_of_written n
      rw [hwritten]
      rintro ⟨⟩
      exact absurd hdigit (by decide)
    simp only [Text.ofInt, number?, hsign, decide_false, Bool.false_eq_true, if_false,
      whole_of_written n hrest, hempty, List.drop_left, fractionPart_of_stops hrest,
      List.isEmpty_nil, if_true, List.drop_zero, exponentPart_of_stops hrest, Option.isNone_none,
      Bool.and_self, hdigits n hn, Text.digitsValue_ofNat]
    simp
  | negSucc n =>
    have hvalue : Int.negSucc n = -((n + 1 : ℕ) : ℤ) := rfl
    simp only [Text.ofInt, number?, List.cons_append, List.head?_cons, decide_true, if_true,
      List.drop_one, List.tail_cons, Bool.false_eq_true, if_false,
      whole_of_written (n + 1) hrest, hempty, List.drop_left, fractionPart_of_stops hrest,
      List.isEmpty_nil, if_true, List.drop_zero, exponentPart_of_stops hrest, Option.isNone_none,
      Bool.and_self, hdigits (n + 1) hn, Text.digitsValue_ofNat]
    simp [hvalue, Nat.add_comm 1]

/-- The sign in front of a number. -/
def signText (negative : Bool) : Text := if negative then "-" else ""

/-- A number is one token: it starts with a digit, or with a sign and a digit. -/
lemma lexes_number {body : Text} {token : Token} (negative : Bool)
    (hbody : ∃ c digits, body = c :: digits ∧ c.isAsciiDigit = true)
    (hnumber : number? (signText negative ++ body ++ rest) =
      some (token, (signText negative ++ body).length))
    (h : Lexes rest ts) : Lexes (signText negative ++ body ++ rest) (token :: ts) := by
  obtain ⟨c, digits, rfl, hdigit⟩ := hbody
  refine lexes_head ?_ (List.append_ne_nil_of_right_ne_nil _ (List.cons_ne_nil c digits)) ?_ h
  · cases negative with
    | false =>
      rintro d ⟨⟩
      obtain ⟨hspace, hmark, hquote, -⟩ := not_word_of_isAsciiDigit hdigit
      exact ⟨hspace, hmark, hquote⟩
    | true =>
      rintro d ⟨⟩
      decide
  · have hword : word? (signText negative ++ c :: digits ++ rest) = none := by
      cases negative with
      | false => exact (not_word_of_isAsciiDigit hdigit).2.2.2 (digits ++ rest)
      | true =>
        have hinfinity : CodePoint.ofChar 'I' ≠ c := by
          rintro rfl
          exact absurd hdigit (by decide)
        simp [signText, word?, valueWords, Text.ofString, CodePoint.ofChar_inj, hinfinity]
    rw [hnumber, hword]
    rfl

lemma lexes_integer {n : ℤ} (hn : n.natAbs < 10 ^ maxIntegerDigits) (hrest : StopsNumber rest)
    (h : Lexes rest ts) : Lexes (Text.ofInt n ++ rest) (.scalar (.ofInt n) :: ts) := by
  have hnumber := number?_ofInt hn hrest
  cases n with
  | ofNat n => exact lexes_number false (exists_digit_of_written n) hnumber h
  | negSucc n => exact lexes_number true (exists_digit_of_written (n + 1)) hnumber h

end Json

end StructuredData
