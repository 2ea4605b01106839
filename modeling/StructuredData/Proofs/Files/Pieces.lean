import StructuredData.Files.Pieces
import StructuredData.Proofs.Text.Utf8

/-!
# Short files that are no text

A file of no more octets than the first chunk takes is fetched at once, and what is left of it after
that is at most a sequence that is cut short.  If it has no more octets than a piece has code points
and is no text, then the first piece is wanted beyond that, and reading it ends with the decoding
fault (`pieces_of_undecodable`).
-/

namespace StructuredData

/-- Line ends only get shorter. -/
lemma Text.length_unifyNewlines_le (t : Text) : t.unifyNewlines.length ≤ t.length := by
  fun_induction Text.unifyNewlines t with
  | case1 => exact Nat.le_refl _
  | case2 => exact Nat.le_refl _
  | case3 _ _ _ ih => exact Nat.succ_le_succ (Nat.le_succ_of_le ih)
  | case4 _ _ _ _ _ ih => exact Nat.succ_le_succ ih
  | case5 _ _ _ ih => exact Nat.succ_le_succ ih

namespace Utf8

variable {c : CodePoint} {octets tail : Octets} {t : Text}

/-! ## What decoding leaves over -/

/-- A step reads at least one octet. -/
lemma one_le_of_step {size : ℕ} (h : step octets = .point c size) : 1 ≤ size := by
  unfold step at h
  dsimp only at h
  repeat' split at h
  all_goals
    cases h
    try decide

/-- What is left over is cut short. -/
lemma decodeFrom_eq_ok {fuel position : ℕ} (hfuel : octets.length ≤ fuel)
    (h : decodeFrom fuel position octets = .ok (t, tail)) :
    (tail = [] ∨ step tail = .unfinished) ∧ t.length + tail.length ≤ octets.length := by
  fun_induction decodeFrom fuel position octets generalizing t tail
  case case1 =>
    cases h
    exact ⟨.inl rfl, Nat.le_refl _⟩
  case case2 hne => exact absurd (List.eq_nil_of_length_eq_zero (Nat.le_zero.mp hfuel)) hne
  case case3 hstep =>
    cases h
    exact ⟨.inr hstep, by simp⟩
  case case4 => cases h
  case case5 hstep ih =>
    obtain ⟨⟨rest, tail⟩, hread, hanswer⟩ := Outcome.bind_eq_ok.mp h
    cases hanswer
    have hsize := one_le_of_step hstep
    rw [List.length_cons] at hfuel
    obtain ⟨hend, hlength⟩ := ih (by rw [List.length_drop, List.length_cons]; omega) hread
    refine ⟨hend, ?_⟩
    rw [List.length_drop, List.length_cons] at hlength
    rw [List.length_cons, List.length_cons]
    omega

lemma exists_decode_eq_error_of_unfinished (hne : tail ≠ []) (h : step tail = .unfinished) :
    ∃ e, decode tail = .error e := by
  obtain ⟨a, rest, rfl⟩ := List.exists_cons_of_ne_nil hne
  rw [decode, List.length_cons, decodeFrom, h]
  exact ⟨_, rfl⟩

lemma exists_decode_eq_error_of_startsSurrogate {a b : UInt8} (h : startsSurrogate a b = true) :
    ∃ e, decode [a, b] = .error e := by
  simp only [startsSurrogate, Bool.and_eq_true, beq_iff_eq, decide_eq_true_eq] at h
  obtain ⟨⟨rfl, hlow⟩, -⟩ := h
  have hsecond : allowsSecond 0xED b = false := by
    rw [Bool.eq_false_iff, ne_eq, allowsSecond_iff]
    rintro ⟨-, -, hhigh, -, -⟩
    have hlow : 0xA0 ≤ b.toNat := UInt8.le_iff_toNat_le.mp hlow
    exact absurd (hhigh rfl) (Nat.not_lt.mpr hlow)
  have hstep : step [0xED, b] = .fault 1 .invalidContinuation := by
    simp [step, hsecond]
  rw [decode]
  unfold decodeFrom
  simp only [List.length_cons, List.length_nil, hstep]
  exact ⟨_, rfl⟩

/-- Octets that are read to their end are a text, or what is left over is none of its own. -/
lemma decode_or_of_decodeFrom (h : decodeFrom octets.length 0 octets = .ok (t, tail)) :
    (decode octets = .ok t ∨ ∃ e, decode tail = .error e) ∧
      t.length + tail.length ≤ octets.length := by
  obtain ⟨hend, hlength⟩ := decodeFrom_eq_ok (Nat.le_refl _) h
  refine ⟨?_, hlength⟩
  cases tail with
  | nil =>
    left
    rw [decode, h]
    rfl
  | cons a rest =>
    have hunfinished := hend.resolve_left (List.cons_ne_nil a rest)
    exact .inr (exists_decode_eq_error_of_unfinished (List.cons_ne_nil a rest) hunfinished)

/-- The same holds of octets that may go on. -/
lemma decode_or_of_decodeOpen (h : decodeOpen octets = .ok (t, tail)) :
    (decode octets = .ok t ∨ ∃ e, decode tail = .error e) ∧
      t.length + tail.length ≤ octets.length := by
  unfold decodeOpen at h
  dsimp only at h
  split at h
  next a b hdrop =>
    split_ifs at h with hsurrogate
    · split at h
      next t' hread =>
        cases h
        refine ⟨.inr (exists_decode_eq_error_of_startsSurrogate hsurrogate), ?_⟩
        have hlength := congrArg List.length hdrop
        obtain ⟨-, hread⟩ := decodeFrom_eq_ok (by simp) hread
        simp only [List.length_drop, List.length_take, List.length_cons, List.length_nil]
          at hlength hread ⊢
        omega
      · exact decode_or_of_decodeFrom h
    · exact decode_or_of_decodeFrom h
  · exact decode_or_of_decodeFrom h

end Utf8

namespace PieceReader

variable {r : PieceReader} {e : Utf8.DecodeError} {octets : Octets} {wanted : ℕ}

/-- All octets have been fetched, and those that are left over are no text. -/
structure IsCutShort (r : PieceReader) (e : Utf8.DecodeError) : Prop where
  octets : r.octets = []
  unfinished : Utf8.decode r.unfinished = .error e

lemma IsCutShort.fetch (h : r.IsCutShort e) (wanted : ℕ) : r.fetch wanted = .error e := by
  unfold PieceReader.fetch finish
  simp only [h.octets, h.unfinished, List.take_nil, List.isEmpty_nil]
  rfl

/-- Of the text of a chunk, at most as many code points are ready, with or without the last one. -/
lemma length_ready_le {waits : Prop} [Decidable waits] (t : Text) :
    (Text.unifyNewlines (if waits then t.dropLast else t)).length ≤ t.length := by
  apply Nat.le_trans (Text.length_unifyNewlines_le _)
  split_ifs
  · exact (List.dropLast_sublist t).length_le
  · exact Nat.le_refl _

lemma IsCutShort.readWith (h : r.IsCutShort e) (hready : r.ready.length < wanted) (fuel : ℕ) :
    r.readWith (fuel + 1) wanted = .error e := by
  have hpiece : r.ready.take wanted = r.ready := List.take_of_length_le (Nat.le_of_lt hready)
  have hmissing : wanted - r.ready.length ≠ 0 := by omega
  have hfetch := IsCutShort.fetch (r := { r with ready := r.ready.drop wanted })
    ⟨h.octets, h.unfinished⟩ (wanted - r.ready.length)
  rw [PieceReader.readWith]
  simp only [hpiece, hmissing, hfetch, if_false]
  rfl

/-- Nothing is ready at the start of a file, so that a chunk is fetched, and read from. -/
lemma readWith_start (hwanted : 0 < wanted) (octets : Octets) (fuel : ℕ) :
    (start octets).readWith (fuel + 1) wanted = (start octets).fetch wanted >>= fun
      | none => pure ([], start octets)
      | some r => r.readWith fuel wanted := by
  have hnone : (start octets).ready.take wanted = [] := List.take_nil
  have hsame : { start octets with ready := (start octets).ready.drop wanted } = start octets := by
    simp [start]
  rw [PieceReader.readWith]
  simp only [hnone, hsame, List.length_nil, Nat.sub_zero, Nat.ne_of_gt hwanted, if_false]
  apply bind_congr
  intro fetched
  cases fetched with
  | none => rfl
  | some r =>
    show (r.readWith fuel wanted >>= fun answer => pure ([] ++ answer.1, answer.2)) =
      r.readWith fuel wanted
    cases r.readWith fuel wanted <;> rfl

lemma piecesWith_of_error {fuel : ℕ} (h : r.readWith (fuel + 1) pieceLength = .error e) :
    piecesWith (fuel + 1) r = ([], some e) := by
  rw [piecesWith, h]

/-- The first chunk holds all octets of a short file. -/
lemma fetch_start (hshort : octets.length ≤ pieceLength) (h : ∀ t, Utf8.decode octets ≠ .ok t)
    (wanted : ℕ) :
    (∃ e, (start octets).fetch wanted = .error e) ∨
      ∃ r e, (start octets).fetch wanted = .ok (some r) ∧ r.IsCutShort e ∧
        r.ready.length < pieceLength := by
  have hne : octets ≠ [] := by
    rintro rfl
    exact h [] rfl
  have hchunk : (start octets).octets.take ((start octets).chunkSize wanted) = octets :=
    List.take_of_length_le (Nat.le_trans (Nat.le_trans hshort (by decide)) (Nat.le_max_left _ _))
  have hempty : octets.isEmpty = false := by simpa using hne
  have hunfinished : (start octets).unfinished ++ octets = octets := List.nil_append octets
  cases hopen : Utf8.decodeOpen octets with
  | error e =>
    left
    refine ⟨e, ?_⟩
    unfold fetch
    simp only [hchunk, hempty, hunfinished, hopen]
    rfl
  | ok answer =>
    right
    obtain ⟨t, tail⟩ := answer
    obtain ⟨htail, hlength⟩ := Utf8.decode_or_of_decodeOpen hopen
    obtain ⟨e, he⟩ := htail.resolve_left (h t)
    have htailLength : 0 < tail.length := by
      rw [List.length_pos_iff]
      rintro rfl
      cases he
    have hfetch : ∃ r, (start octets).fetch wanted = .ok (some r) ∧
        r.octets = octets.drop octets.length ∧ r.unfinished = tail ∧
        r.ready.length ≤ t.length := by
      unfold fetch
      simp only [hchunk, hempty, hunfinished, hopen]
      -- no carriage return waits at the start of a file
      exact ⟨_, rfl, rfl, rfl, length_ready_le t⟩
    obtain ⟨r, hr, hoctets, rfl, hready⟩ := hfetch
    refine ⟨r, e, hr, ⟨hoctets.trans (List.drop_length), he⟩, ?_⟩
    omega

end PieceReader

open PieceReader in
/-- Not even the first piece of a short file that is no text can be read. -/
lemma Octets.pieces_of_undecodable {octets : Octets} (hshort : octets.length ≤ pieceLength)
    (h : ∀ t, Utf8.decode octets ≠ .ok t) : ∃ e, octets.pieces = ([], some e) := by
  have hread := readWith_start (by decide : 0 < pieceLength) octets (octets.length + 2)
  unfold Octets.pieces
  obtain ⟨e, hfetch⟩ | ⟨r, e, hfetch, hcut, hready⟩ := fetch_start hshort h pieceLength
  · rw [hfetch] at hread
    exact ⟨e, piecesWith_of_error hread⟩
  · rw [hfetch] at hread
    exact ⟨e, piecesWith_of_error (hread.trans (hcut.readWith hready _))⟩

end StructuredData
