import StructuredData.Proofs.Json.Joined
import StructuredData.Proofs.Json.Lexing

/-!
# Written strings as tokens

A string is written between quotes, with escapes for some of its code points, and is one token for
the reader, whatever stands behind it.  In ASCII every half of a surrogate pair is an escape of its
own, and the reader joins a first half with a second half behind it; so a text is only read back if
no such two stand next to each other in it (`Text.IsJoined`).
-/

namespace StructuredData

namespace Json

variable {ascii : Bool} {after rest t : Text} {ts : List Token} {n : ℕ}

/-! ## Escapes of four digits -/

/-- The digit of a number below 16. -/
def hexDigit (n : ℕ) : CodePoint := CodePoint.ofChar n.digitChar

lemma hexValue?_hexDigit (hn : n < 16) : (hexDigit n).hexValue? = some n := by
  have hdigits : ∀ n < 16, (hexDigit n).hexValue? = some n := by decide
  exact hdigits n hn

/-- With one place more there is one digit more at the end. -/
lemma hex_succ {width : ℕ} (hwidth : 0 < width) (n : ℕ) :
    Text.hex (width + 1) n = Text.hex width (n / 16) ++ [hexDigit (n % 16)] := by
  have hdigits := Nat.toDigits_eq_if (b := 16) (n := n) (by decide)
  unfold Text.hex Text.padLeft
  by_cases hn : n < 16
  · rw [if_pos hn] at hdigits
    obtain ⟨width, rfl⟩ := Nat.exists_eq_add_of_le' hwidth
    have hzero : (Nat.toDigits 16 0).map CodePoint.ofChar = [CodePoint.ofChar '0'] := by decide
    rw [hdigits, Nat.div_eq_of_lt hn, Nat.mod_eq_of_lt hn, hzero]
    simp [hexDigit, List.replicate_succ']
  · rw [if_neg hn] at hdigits
    rw [hdigits]
    simp [hexDigit]

lemma hex_one (hn : n < 16) : Text.hex 1 n = [hexDigit n] := by
  have hdigits : ∀ n < 16, Text.hex 1 n = [hexDigit n] := by decide
  exact hdigits n hn

/-- What is written for a number in four digits is an escape that names it. -/
lemma exists_unitEscape (hn : n < 0x10000) :
    ∃ a b d e, unitEscape n = CodePoint.ofChar '\\' :: CodePoint.ofChar 'u' :: [a, b, d, e] ∧
      hexUnit? a b d e = some n := by
  have hfour : Text.hex 4 n = [hexDigit (n / 16 / 16 / 16), hexDigit (n / 16 / 16 % 16),
      hexDigit (n / 16 % 16), hexDigit (n % 16)] := by
    rw [hex_succ (by decide), hex_succ (by decide), hex_succ (by decide), hex_one (by omega)]
    rfl
  refine ⟨_, _, _, _, by rw [unitEscape, hfour]; rfl, ?_⟩
  have hfirst := hexValue?_hexDigit (n := n / 16 / 16 / 16) (by omega)
  have hlater : ∀ m, (hexDigit (m % 16)).hexValue? = some (m % 16) :=
    fun m => hexValue?_hexDigit (Nat.mod_lt m (by decide))
  simp only [hexUnit?, hfirst, hlater, bind, Option.bind, pure, Option.some.injEq]
  omega

/-! ## Second halves -/

lemma lowEscape?_of_ne {c : CodePoint} (hc : c ≠ CodePoint.ofChar '\\') (rest : Text) :
    lowEscape? (c :: rest) = none := by
  unfold lowEscape?
  split
  · next heq =>
    obtain ⟨rfl, -⟩ := List.cons.inj heq
    simp [hc]
  · rfl

lemma lowEscape?_of_second_ne {d : CodePoint} (hd : d ≠ CodePoint.ofChar 'u') (c : CodePoint)
    (rest : Text) : lowEscape? (c :: d :: rest) = none := by
  unfold lowEscape?
  split
  · next heq =>
    simp only [List.cons.injEq] at heq
    obtain ⟨-, rfl, -⟩ := heq
    simp [hd]
  · rfl

lemma lowEscape?_unitEscape (hn : n < 0x10000) (hafter : after ≠ []) :
    lowEscape? (unitEscape n ++ after) = if isLowUnit n then some n else none := by
  obtain ⟨a, b, d, e, hescape, hunit⟩ := exists_unitEscape hn
  obtain ⟨x, after, rfl⟩ := List.exists_cons_of_ne_nil hafter
  rw [hescape]
  exact lowEscape?_of_hexUnit? hunit

/-! ## Single code points -/

/-- What can stand for a code point in a string: an escape of one letter, one of four digits, in
ASCII two of them for what is beyond four digits, or the code point itself. -/
inductive Spells (ascii : Bool) (c : CodePoint) : Text → Prop
  | letter {e : CodePoint} (he : simpleEscape? e = some c) (hu : e ≠ CodePoint.ofChar 'u') :
      Spells ascii c [CodePoint.ofChar '\\', e]
  | unit (hc : c.val < 0x10000) (hhigh : isHighUnit c.val = true → ascii = true) :
      Spells ascii c (unitEscape c.val)
  | pair (hc : 0x10000 ≤ c.val) :
      Spells ascii c (unitEscape (0xD800 + (c.val - 0x10000) / 0x400) ++
        unitEscape (0xDC00 + (c.val - 0x10000) % 0x400))
  | self (hquote : c ≠ CodePoint.ofChar '"') (hescape : c ≠ CodePoint.ofChar '\\')
      (hcontrol : ¬ c.val < 0x20) : Spells ascii c [c]

lemma spells_writePoint (ascii : Bool) (c : CodePoint) : Spells ascii c (writePoint ascii c) := by
  unfold writePoint
  by_cases h₁ : c = CodePoint.ofChar '"'
  · subst h₁
    exact .letter rfl (by decide)
  rw [if_neg h₁]
  by_cases h₂ : c = CodePoint.ofChar '\\'
  · subst h₂
    exact .letter rfl (by decide)
  rw [if_neg h₂]
  by_cases h₃ : c = CodePoint.ofChar '\n'
  · subst h₃
    exact .letter rfl (by decide)
  rw [if_neg h₃]
  by_cases h₄ : c = CodePoint.ofChar '\x0d'
  · subst h₄
    exact .letter rfl (by decide)
  rw [if_neg h₄]
  by_cases h₅ : c = CodePoint.ofChar '\t'
  · subst h₅
    exact .letter rfl (by decide)
  rw [if_neg h₅]
  by_cases h₆ : c = CodePoint.ofChar '\x0c'
  · subst h₆
    exact .letter rfl (by decide)
  rw [if_neg h₆]
  by_cases h₇ : c = CodePoint.ofChar '\x08'
  · subst h₇
    exact .letter rfl (by decide)
  rw [if_neg h₇]
  by_cases hcontrol : c.val < 0x20
  · rw [if_pos hcontrol]
    exact .unit (by omega) (by simp [isHighUnit]; omega)
  rw [if_neg hcontrol]
  by_cases hascii : (ascii && decide (0x7F ≤ c.val)) = true
  · rw [if_pos hascii]
    by_cases hunit : c.val < 0x10000
    · rw [if_pos hunit]
      exact .unit hunit fun _ => ((Bool.and_eq_true _ _).mp hascii).1
    · rw [if_neg hunit]
      exact .pair (not_lt.mp hunit)
  · rw [if_neg hascii]
    exact .self h₁ h₂ hcontrol

namespace Spells

variable {c : CodePoint}

lemma ne_nil (h : Spells ascii c t) : t ≠ [] := by
  have hunit : ∀ n, unitEscape n ≠ [] :=
    fun n => List.append_ne_nil_of_left_ne_nil (by decide) (Text.hex 4 n)
  cases h with
  | letter => exact List.cons_ne_nil _ _
  | unit => exact hunit _
  | pair => exact List.append_ne_nil_of_left_ne_nil (hunit _) _
  | self => exact List.cons_ne_nil _ _

/-- What stands for a code point starts with no second half unless it is one. -/
lemma lowEscape? (h : Spells ascii c t) (hc : isLowUnit c.val = false) (hafter : after ≠ []) :
    lowEscape? (t ++ after) = none := by
  have hlt := c.isLt
  cases h with
  | letter _ hu => exact lowEscape?_of_second_ne hu _ _
  | unit hunit _ =>
    rw [lowEscape?_unitEscape hunit hafter, hc]
    rfl
  | pair hpair =>
    have hhigh : isLowUnit (0xD800 + (c.val - 0x10000) / 0x400) = false := by
      simp [isLowUnit]
      omega
    rw [List.append_assoc, lowEscape?_unitEscape (by omega)
      (List.append_ne_nil_of_right_ne_nil _ hafter), hhigh]
    rfl
  | self _ hescape _ => exact lowEscape?_of_ne hescape _

end Spells

/-! ## Reading what was written -/

/-- An escape of four digits is read as its number, if it is no first half with a second half
behind it. -/
lemma readString_unitEscape {opening p : ℕ} (hn : n < 0x10000) (hafter : after ≠ [])
    (hnext : isHighUnit n = true → lowEscape? after = none) (fuel : ℕ) :
    readString opening (fuel + 1) p (unitEscape n ++ after) =
      (readString opening fuel (p + 6) after >>= fun answer =>
        .ok (CodePoint.ofNat n :: answer.1, answer.2)) := by
  obtain ⟨a, b, d, e, hescape, hunit⟩ := exists_unitEscape hn
  obtain ⟨x, after, rfl⟩ := List.exists_cons_of_ne_nil hafter
  have hquote : CodePoint.ofChar '\\' ≠ CodePoint.ofChar '"' := by decide
  have hlow : (if isHighUnit n then lowEscape? (x :: after) else none) = none := by
    split_ifs with hhigh
    · exact hnext hhigh
    · rfl
  rw [hescape, readString.eq_def]
  simp only [List.cons_append, List.nil_append, hquote, hunit, hlow, if_false, if_true]

/-- Two escapes of four digits are read as the code point of the pair. -/
lemma readString_pair {opening p low : ℕ} (hn : n < 0x10000) (hlow : low < 0x10000)
    (hhigh : isHighUnit n = true) (hsecond : isLowUnit low = true) (hafter : after ≠ [])
    (fuel : ℕ) :
    readString opening (fuel + 1) p (unitEscape n ++ unitEscape low ++ after) =
      (readString opening fuel (p + 12) after >>= fun answer =>
        .ok (joinUnits n low :: answer.1, answer.2)) := by
  obtain ⟨a, b, d, e, hescape, hunit⟩ := exists_unitEscape hn
  obtain ⟨a', b', d', e', hescape', -⟩ := exists_unitEscape hlow
  have hnext := lowEscape?_unitEscape hlow hafter
  rw [if_pos hsecond] at hnext
  have hquote : CodePoint.ofChar '\\' ≠ CodePoint.ofChar '"' := by decide
  rw [hescape'] at hnext
  rw [hescape, hescape', readString.eq_def]
  simp only [List.cons_append, List.nil_append] at hnext ⊢
  simp only [hquote, hunit, hhigh, hnext, if_false, if_true, List.drop_succ_cons, List.drop_zero]

/-- What stands for a code point is read as this code point, if something stands behind it. -/
lemma Spells.readString {c : CodePoint} (h : Spells ascii c t) (opening p : ℕ) (hafter : after ≠ [])
    (hnext : ascii = true → isHighUnit c.val = true → Json.lowEscape? after = none) :
    ∃ used, ∀ fuel, readString opening (fuel + 1) p (t ++ after) =
      (readString opening fuel (p + used) after >>= fun answer =>
        .ok (c :: answer.1, answer.2)) := by
  have hlt := c.isLt
  have hself : CodePoint.ofNat c.val = c := by simp [CodePoint.ofNat, c.isLt]
  cases h with
  | @letter e he hu =>
    refine ⟨2, fun fuel => ?_⟩
    have hquote : CodePoint.ofChar '\\' ≠ CodePoint.ofChar '"' := by decide
    rw [readString.eq_def]
    simp only [List.cons_append, List.nil_append, hquote, hu, he, if_false, if_true]
  | unit hunit hhigh =>
    refine ⟨6, fun fuel => ?_⟩
    rw [readString_unitEscape hunit hafter fun h => hnext (hhigh h) h, hself]
  | pair hpair =>
    have hhigh : isHighUnit (0xD800 + (c.val - 0x10000) / 0x400) = true := by
      simp [isHighUnit]
      omega
    have hlow : isLowUnit (0xDC00 + (c.val - 0x10000) % 0x400) = true := by
      simp [isLowUnit]
      omega
    have hjoin : joinUnits (0xD800 + (c.val - 0x10000) / 0x400)
        (0xDC00 + (c.val - 0x10000) % 0x400) = c := by
      have hvalue : 0x10000 + (0xD800 + (c.val - 0x10000) / 0x400 - 0xD800) * 0x400 +
          (0xDC00 + (c.val - 0x10000) % 0x400 - 0xDC00) = c.val := by
        omega
      rw [joinUnits, hvalue, hself]
    refine ⟨12, fun fuel => ?_⟩
    rw [readString_pair (by omega) (by omega) hhigh hlow hafter, hjoin]
  | self hquote hescape hcontrol =>
    refine ⟨1, fun fuel => ?_⟩
    rw [List.singleton_append, readString.eq_def]
    simp only [hquote, hescape, hcontrol, if_false]

/-- A written string is read as its text. -/
lemma readString_written (opening : ℕ) (hjoined : ascii = true → t.IsJoined) (rest : Text) :
    ∀ fuel p, t.length < fuel → ∃ q,
      readString opening fuel p
        (t.flatMap (writePoint ascii) ++ CodePoint.ofChar '"' :: rest) = .ok (t, rest, q) := by
  induction t with
  | nil =>
    intro fuel p hfuel
    obtain ⟨fuel, rfl⟩ := Nat.exists_eq_add_of_le' hfuel
    exact ⟨p + 1, rfl⟩
  | cons c t ih =>
    intro fuel p hfuel
    rw [List.length_cons] at hfuel
    obtain ⟨fuel, rfl⟩ := Nat.exists_eq_add_of_le' (Nat.one_le_of_lt hfuel)
    have hafter : t.flatMap (writePoint ascii) ++ CodePoint.ofChar '"' :: rest ≠ [] := by simp
    have hnext : ascii = true → isHighUnit c.val = true →
        lowEscape? (t.flatMap (writePoint ascii) ++ CodePoint.ofChar '"' :: rest) = none := by
      intro hascii hhigh
      match t, List.isChain_cons.mp (hjoined hascii) with
      | [], _ => exact lowEscape?_of_ne (by decide) rest
      | d :: t, ⟨hd, _⟩ =>
        rw [List.flatMap_cons, List.append_assoc]
        exact (spells_writePoint ascii d).lowEscape? (hd d rfl hhigh) (by simp)
    obtain ⟨used, hstep⟩ := (spells_writePoint ascii c).readString opening p hafter hnext
    obtain ⟨q, hq⟩ := ih (fun hascii => (List.isChain_cons.mp (hjoined hascii)).2) fuel (p + used)
      (by omega)
    refine ⟨q, ?_⟩
    rw [List.flatMap_cons, List.append_assoc, hstep fuel, hq]
    rfl

/-- No code point is written with nothing. -/
lemma length_le_length_written (ascii : Bool) (t : Text) :
    t.length ≤ (t.flatMap (writePoint ascii)).length := by
  induction t with
  | nil => exact le_rfl
  | cons c t ih =>
    have hc := List.length_pos_iff.mpr (spells_writePoint ascii c).ne_nil
    rw [List.length_cons, List.flatMap_cons, List.length_append]
    omega

lemma lexes_string (hjoined : ascii = true → t.IsJoined) (h : Lexes rest ts) :
    Lexes (writeString ascii t ++ rest) (.string t :: ts) := by
  have hwritten : writeString ascii t ++ rest =
      CodePoint.ofChar '"' :: (t.flatMap (writePoint ascii) ++ CodePoint.ofChar '"' :: rest) := by
    simp [writeString, Text.ofString]
  rw [hwritten]
  refine lexes_of_step fun fuel p hfuel => ?_
  rw [List.length_append, List.length_cons] at hfuel
  have hlength := length_le_length_written ascii t
  obtain ⟨q, hq⟩ := readString_written p hjoined rest (fuel + 1) (p + 1) (by omega)
  have hmark : mark? (CodePoint.ofChar '"') = none := by decide
  have hspace : isSpace (CodePoint.ofChar '"') = false := by decide
  rw [tokensFrom, if_neg (by simp [hspace]), hmark]
  dsimp only
  rw [if_pos rfl, hq]
  exact congrArg (Token.string t :: ·) (h fuel q (by omega))

end Json

end StructuredData
