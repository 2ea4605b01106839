import Mathlib.Algebra.Group.Nat.Even
import Mathlib.Tactic.Common
import StructuredData.Proofs.Outcome
import StructuredData.Text.Utf8

/-!
# Octets read back

The octets of a text are read as that text again if it holds no half of a surrogate pair.  One step
reads what was written for one code point, whatever stands behind it, and a run of steps the text.
Nor does any other row of octets give a text with half of a surrogate pair.
-/

namespace StructuredData

namespace Utf8

variable {c : CodePoint} {o : Octets} {t : Text}

/-! ## One code point -/

lemma toNat_continuation (n place : ℕ) :
    (continuation n place).toNat = 128 + n / 2 ^ place % 64 := by
  rw [continuation, Nat.shiftRight_eq_div_pow, UInt8.toNat_ofNat']
  omega

lemma isContinuation_iff (b : UInt8) :
    isContinuation b = true ↔ 128 ≤ b.toNat ∧ b.toNat < 192 := by
  simp [isContinuation, UInt8.le_iff_toNat_le, UInt8.lt_iff_toNat_lt]

lemma isContinuation_continuation (n place : ℕ) : isContinuation (continuation n place) = true := by
  rw [isContinuation_iff, toNat_continuation]
  omega

lemma payload_continuation (n place : ℕ) :
    payload (continuation n place) = n / 2 ^ place % 64 := by
  rw [payload, toNat_continuation]
  omega

lemma allowsSecond_iff (a b : UInt8) :
    allowsSecond a b = true ↔
      isContinuation b = true ∧ (a.toNat = 0xE0 → 0xA0 ≤ b.toNat) ∧
        (a.toNat = 0xED → b.toNat < 0xA0) ∧ (a.toNat = 0xF0 → 0x90 ≤ b.toNat) ∧
        (a.toNat = 0xF4 → b.toNat < 0x90) := by
  simp only [allowsSecond, Bool.and_eq_true, Bool.or_eq_true, bne_iff_ne, ne_eq, decide_eq_true_eq,
    UInt8.le_iff_toNat_le, UInt8.lt_iff_toNat_lt, ← UInt8.toNat_inj, imp_iff_not_or, and_assoc]
  rfl

lemma ofNat_of_eq {n : ℕ} (h : n = c.val) : CodePoint.ofNat n = c := by
  subst h
  rw [CodePoint.ofNat, dif_pos c.isLt]

/-- What is written for one code point is read as that code point. -/
lemma step_encodePoint (hc : c.isSurrogate = false) (rest : Octets) :
    step (encodePoint c ++ rest) = .point c (encodePoint c).length := by
  have hlt := c.isLt
  have hsurrogate : ¬(0xD800 ≤ c.val ∧ c.val ≤ 0xDFFF) := by
    simpa [CodePoint.isSurrogate] using hc
  unfold encodePoint
  dsimp only
  split_ifs with hone htwo hthree
  · have hfirst : (UInt8.ofNat c.val).toNat = c.val :=
      UInt8.toNat_ofNat_of_lt' (Nat.lt_trans hone (by decide))
    simp only [List.cons_append, List.nil_append, step]
    rw [hfirst, if_pos hone, ofNat_of_eq (c := c) rfl]
    rfl
  · have hfirst : (UInt8.ofNat (0xC0 + c.val / 64)).toNat = 0xC0 + c.val / 64 :=
      UInt8.toNat_ofNat_of_lt' (show 0xC0 + c.val / 64 < 256 by omega)
    simp only [List.cons_append, List.nil_append, step]
    rw [hfirst, if_neg (by omega), if_neg (by omega), if_pos (by omega),
      isContinuation_continuation, if_pos rfl, payload_continuation,
      ofNat_of_eq (c := c) (by omega)]
    rfl
  · have hfirst : (UInt8.ofNat (0xE0 + c.val / 4096)).toNat = 0xE0 + c.val / 4096 :=
      UInt8.toNat_ofNat_of_lt' (show 0xE0 + c.val / 4096 < 256 by omega)
    have hsecond : allowsSecond (UInt8.ofNat (0xE0 + c.val / 4096)) (continuation c.val 6) =
        true := by
      rw [allowsSecond_iff, hfirst, toNat_continuation]
      refine ⟨isContinuation_continuation _ _, ?_⟩
      omega
    simp only [List.cons_append, List.nil_append, step]
    rw [hfirst, if_neg (by omega), if_neg (by omega), if_neg (by omega), if_pos (by omega),
      hsecond, isContinuation_continuation, payload_continuation, payload_continuation,
      ofNat_of_eq (c := c) (by omega)]
    rfl
  · have hfirst : (UInt8.ofNat (0xF0 + c.val / 262144)).toNat = 0xF0 + c.val / 262144 :=
      UInt8.toNat_ofNat_of_lt' (show 0xF0 + c.val / 262144 < 256 by omega)
    have hsecond : allowsSecond (UInt8.ofNat (0xF0 + c.val / 262144)) (continuation c.val 12) =
        true := by
      rw [allowsSecond_iff, hfirst, toNat_continuation]
      refine ⟨isContinuation_continuation _ _, ?_⟩
      omega
    simp only [List.cons_append, List.nil_append, step]
    rw [hfirst, if_neg (by omega), if_neg (by omega), if_neg (by omega), if_neg (by omega),
      if_pos (by omega), hsecond, isContinuation_continuation, isContinuation_continuation,
      payload_continuation, payload_continuation, payload_continuation,
      ofNat_of_eq (c := c) (by omega)]
    rfl

lemma encodePoint_ne_nil (c : CodePoint) : encodePoint c ≠ [] := by
  unfold encodePoint
  dsimp only
  split_ifs <;> exact List.cons_ne_nil _ _

/-! ## Texts -/

lemma decodeFrom_octets (ht : ∀ c ∈ t, c.isSurrogate = false) {fuel : ℕ}
    (hfuel : (octets t).length ≤ fuel) (position : ℕ) :
    decodeFrom fuel position (octets t) = .ok (t, []) := by
  induction t generalizing fuel position with
  | nil => cases fuel <;> rfl
  | cons c t ih =>
    obtain ⟨hc, ht⟩ := List.forall_mem_cons.mp ht
    have hsplit : octets (c :: t) = encodePoint c ++ octets t := List.flatMap_cons
    have hpoint := encodePoint_ne_nil c
    have hstep := step_encodePoint hc (octets t)
    have hdrop : (encodePoint c ++ octets t).drop (encodePoint c).length = octets t :=
      List.drop_left
    obtain ⟨a, rest, hoctets⟩ := List.exists_cons_of_ne_nil
      (List.append_ne_nil_of_left_ne_nil hpoint (octets t))
    have hsize := List.length_pos_iff.mpr hpoint
    rw [hsplit, List.length_append] at hfuel
    obtain ⟨fuel, rfl⟩ := Nat.exists_eq_add_of_le'
      (Nat.le_trans hsize (Nat.le_of_add_right_le hfuel))
    rw [hsplit, hoctets, decodeFrom, ← hoctets, hstep]
    dsimp only
    rw [hdrop, ih ht (by omega)]
    rfl

/-- A text without halves of surrogate pairs is read from its octets. -/
lemma decode_octets (ht : ∀ c ∈ t, c.isSurrogate = false) : decode (octets t) = .ok t := by
  rw [decode, decodeFrom_octets ht (Nat.le_refl _)]
  rfl

/-! ## Texts that have octets -/

lemma refused?_eq_none_iff {isRefused : CodePoint → Bool} :
    refused? isRefused t = none ↔ ∀ c ∈ t, isRefused c = false := by
  unfold refused?
  induction t with
  | nil => simp
  | cons c t ih =>
    cases hc : isRefused c with
    | true => simp [hc]
    | false =>
      rw [List.dropWhile_cons_of_pos (by simp [hc]), List.forall_mem_cons, and_iff_right hc, ← ih]
      cases t.dropWhile fun c => !isRefused c <;> simp

/-- A text has octets if no half of a surrogate pair stands in it. -/
lemma encode_eq_ok_iff : encode t = .ok o ↔ (∀ c ∈ t, c.isSurrogate = false) ∧ octets t = o := by
  rw [← refused?_eq_none_iff]
  unfold encode
  cases refused? CodePoint.isSurrogate t <;> simp

lemma encode_of (ht : ∀ c ∈ t, c.isSurrogate = false) : encode t = .ok (octets t) :=
  encode_eq_ok_iff.mpr ⟨ht, rfl⟩

lemma exists_encode_eq_error_iff :
    (∃ e, encode t = .error e) ↔ ∃ c ∈ t, c.isSurrogate = true := by
  rw [← Outcome.not_isOk_iff]
  simp [encode_eq_ok_iff]

lemma octets_append (t t' : Text) : octets (t ++ t') = octets t ++ octets t' := List.flatMap_append

/-- Texts are written one after another up to the end if each of them has octets. -/
lemma encodeAll_of {ts : List Text} (h : ∀ t ∈ ts, ∀ c ∈ t, c.isSurrogate = false) :
    encodeAll ts = (octets ts.flatten, none) := by
  induction ts with
  | nil => rfl
  | cons t ts ih =>
    obtain ⟨ht, hts⟩ := List.forall_mem_cons.mp h
    simp only [encodeAll, encode_of ht, ih hts, List.flatten_cons, octets_append]

lemma encodeAll_snd_eq_none_iff {ts : List Text} :
    (encodeAll ts).2 = none ↔ ∀ t ∈ ts, ∀ c ∈ t, c.isSurrogate = false := by
  refine ⟨fun h => ?_, fun h => by rw [encodeAll_of h]⟩
  induction ts with
  | nil => exact List.forall_mem_nil _
  | cons t ts ih =>
    unfold encodeAll at h
    cases ht : encode t with
    | error e =>
      rw [ht] at h
      cases h
    | ok o =>
      rw [ht] at h
      exact List.forall_mem_cons.mpr ⟨(encode_eq_ok_iff.mp ht).1, ih h⟩

/-! ## No halves of surrogate pairs -/

/-- What is read is no half of a surrogate pair. -/
lemma isSurrogate_of_step {size : ℕ} (h : step o = .point c size) : c.isSurrogate = false := by
  unfold step at h
  dsimp only at h
  split at h
  · cases h
  next a rest =>
  split_ifs at h with hone hlow htwo hthree hfour
  · obtain ⟨rfl, -⟩ := Step.point.inj h
    exact CodePoint.isSurrogate_ofNat (.inl (by omega))
  · split at h
    · cases h
    · split_ifs at h
      obtain ⟨rfl, -⟩ := Step.point.inj h
      refine CodePoint.isSurrogate_ofNat (.inl ?_)
      unfold payload
      omega
  · split at h
    · cases h
    next b rest =>
    split_ifs at h with hsecond
    split at h
    · cases h
    next d rest =>
    split_ifs at h with hthird
    obtain ⟨rfl, -⟩ := Step.point.inj h
    simp only [Bool.not_eq_true, Bool.not_eq_false', allowsSecond_iff, isContinuation_iff]
      at hsecond hthird
    refine CodePoint.isSurrogate_ofNat ?_
    unfold payload
    omega
  · split at h
    · cases h
    next b rest =>
    split_ifs at h with hsecond
    split at h
    · cases h
    next d rest =>
    split_ifs at h with hthird
    split at h
    · cases h
    next e rest =>
    split_ifs at h with hfourth
    obtain ⟨rfl, -⟩ := Step.point.inj h
    simp only [Bool.not_eq_true, Bool.not_eq_false', allowsSecond_iff, isContinuation_iff]
      at hsecond hthird
    refine CodePoint.isSurrogate_ofNat (.inr ?_)
    unfold payload
    omega

lemma isSurrogate_of_decodeFrom {fuel position : ℕ} {tail : Octets}
    (h : decodeFrom fuel position o = .ok (t, tail)) : ∀ c ∈ t, c.isSurrogate = false := by
  fun_induction decodeFrom fuel position o generalizing t tail
  case case1 | case2 | case3 =>
    cases h
    exact List.forall_mem_nil _
  case case4 => cases h
  case case5 hstep ih =>
    obtain ⟨answer, hread, hanswer⟩ := Outcome.bind_eq_ok.mp h
    cases hanswer
    exact List.forall_mem_cons.mpr ⟨isSurrogate_of_step hstep, ih hread⟩

/-- Octets are never read as a text with half of a surrogate pair. -/
lemma isSurrogate_of_decode (h : decode o = .ok t) : ∀ c ∈ t, c.isSurrogate = false := by
  obtain ⟨⟨found, tail⟩, hread, hend⟩ := Outcome.bind_eq_ok.mp h
  cases tail with
  | nil =>
    cases hend
    exact isSurrogate_of_decodeFrom hread
  | cons => cases hend

end Utf8

end StructuredData
