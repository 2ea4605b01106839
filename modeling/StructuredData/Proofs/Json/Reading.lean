import Mathlib.Data.List.TakeWhile
import Mathlib.Tactic.Common
import StructuredData.Json.Reader
import StructuredData.Proofs.Number.Decimal
import StructuredData.Proofs.Outcome

/-!
# What holds of every value that is read

The tokens of a text carry strings and simple values, and whatever these and the parts of containers
hand on to the whole holds of every value that is read (`Inherited.of_read`).  The three readers for
values, elements and members call each other, so this is one induction on their fuel
(`Inherited.readers`).
-/

namespace StructuredData

/-- Values that a single word or number writes: an integer has a bounded number of digits. -/
inductive Value.IsSimple : Value → Prop
  | null : IsSimple .null
  | bool (b : Bool) : IsSimple (.bool b)
  | integer {n : ℤ} (hn : n.natAbs < 10 ^ maxIntegerDigits) : IsSimple (.number (.int n))
  | float (x : Binary64) : IsSimple (.number (.float x))

namespace Json

variable {S : Text → Prop} {Q : ℕ → Value → Prop} {endPosition fuel : ℕ}
  {ts : List PlacedToken} {t : Text} {v : Value} {token : Token}

/-! ## Strings -/

/-- How the rest of a string is read, up to its closing quote: the text that is found and the text
behind the quote. -/
inductive ReadsString : Text → Text → Text → Prop
  | close (tail : Text) : ReadsString (CodePoint.ofChar '"' :: tail) [] tail
  | self {c : CodePoint} {t s tail : Text} (hquote : c ≠ CodePoint.ofChar '"')
      (hescape : c ≠ CodePoint.ofChar '\\') (h : ReadsString t s tail) :
      ReadsString (c :: t) (c :: s) tail
  | letter {e c : CodePoint} {t s tail : Text} (hc : simpleEscape? e = some c)
      (h : ReadsString t s tail) : ReadsString (CodePoint.ofChar '\\' :: e :: t) (c :: s) tail
  | unit {a b c d x : CodePoint} {n : ℕ} {t s tail : Text} (hunit : hexUnit? a b c d = some n)
      (hnext : isHighUnit n = true → lowEscape? (x :: t) = none)
      (h : ReadsString (x :: t) s tail) :
      ReadsString (CodePoint.ofChar '\\' :: CodePoint.ofChar 'u' :: a :: b :: c :: d :: x :: t)
        (CodePoint.ofNat n :: s) tail
  | pair {a b c d : CodePoint} {high low : ℕ} {t s tail : Text}
      (hunit : hexUnit? a b c d = some high) (hhigh : isHighUnit high = true)
      (hlow : lowEscape? t = some low)
      (h : ReadsString (t.drop 6) s tail) :
      ReadsString (CodePoint.ofChar '\\' :: CodePoint.ofChar 'u' :: a :: b :: c :: d :: t)
        (joinUnits high low :: s) tail

lemma readsString_of_readString {opening fuel p q : ℕ} {t s tail : Text}
    (h : readString opening fuel p t = .ok (s, tail, q)) : ReadsString t s tail := by
  fun_induction readString opening fuel p t generalizing s tail q
  case case1 | case2 | case4 | case5 | case8 | case10 | case11 => cases h
  case case3 =>
    cases h
    exact .close _
  case case6 hunit _ hpair _ ih =>
    obtain ⟨answer, hread, hanswer⟩ := Outcome.bind_eq_ok.mp h
    cases hanswer
    obtain ⟨hhigh, hlow⟩ := Option.ite_none_right_eq_some.mp hpair
    exact .pair hunit hhigh hlow (ih _ _ hread)
  case case7 hunit hlow _ ih =>
    obtain ⟨answer, hread, hanswer⟩ := Outcome.bind_eq_ok.mp h
    cases hanswer
    exact .unit hunit (fun hhigh => (if_pos hhigh).symm.trans hlow) (ih _ _ hread)
  case case9 hd _ ih =>
    obtain ⟨answer, hread, hanswer⟩ := Outcome.bind_eq_ok.mp h
    cases hanswer
    exact .letter hd (ih _ _ hread)
  case case12 hquote hescape _ ih =>
    obtain ⟨answer, hread, hanswer⟩ := Outcome.bind_eq_ok.mp h
    cases hanswer
    exact .self hquote hescape (ih _ _ hread)

/-- What follows a string is an end of the text. -/
lemma ReadsString.isSuffix {s tail : Text} (h : ReadsString t s tail) : tail <:+ t := by
  induction h with
  | close tail => exact List.suffix_cons _ _
  | self _ _ _ ih => exact ih.trans (List.suffix_cons _ _)
  | letter _ _ ih => exact ih.trans ((List.suffix_cons _ _).trans (List.suffix_cons _ _))
  | @unit a b c d x n t _ _ _ _ _ ih => exact ih.trans (List.suffix_append [_, _, a, b, c, d] _)
  | @pair a b c d _ _ t _ _ _ _ _ _ ih =>
    exact (ih.trans (List.drop_suffix 6 t)).trans (List.suffix_append [_, _, a, b, c, d] _)

/-! ## Tokens -/

/-- What a token carries is a string of the kind or a simple value. -/
def Bears (S : Text → Prop) : Token → Prop
  | .string t => S t
  | .scalar v => v.IsSimple
  | _ => True

lemma bears_of_mark? {c : CodePoint} (h : mark? c = some token) :
    Bears S token := by
  unfold mark? at h
  split_ifs at h <;> cases h <;> trivial

lemma bears_of_word? {n : ℕ} (h : word? t = some (token, n)) : Bears S token := by
  obtain ⟨w, hw, heq⟩ := Option.map_eq_some_iff.mp h
  obtain ⟨rfl, -⟩ := Prod.mk.inj heq
  have hmem := List.mem_of_find?_eq_some hw
  simp only [valueWords, List.mem_cons, List.not_mem_nil, or_false] at hmem
  rcases hmem with rfl | rfl | rfl | rfl | rfl | rfl <;> constructor

/-- The digits of a number are those at the head of a text, or the first of them. -/
lemma isAsciiDigit_of_mem_whole {body : Text} {c : CodePoint}
    (hc : c ∈ if body.head? = some (CodePoint.ofChar '0') then body.take 1
      else body.takeWhile CodePoint.isAsciiDigit) : c.isAsciiDigit = true := by
  split_ifs at hc with hzero
  · obtain ⟨rest, rfl⟩ := List.head?_eq_some_iff.mp hzero
    rw [List.mem_singleton.mp hc]
    decide
  · exact List.mem_takeWhile_imp hc

lemma bears_of_number? {m : ℕ} (h : number? t = some (token, m)) : Bears S token := by
  unfold number? at h
  extract_lets _ body whole _ _ fraction _ exponent _ _ n x at h
  have hdigits : ∀ c ∈ whole, c.isAsciiDigit = true := fun c hc => isAsciiDigit_of_mem_whole hc
  by_cases hempty : whole.isEmpty = true
  · rw [if_pos hempty] at h
    cases h
  rw [if_neg hempty] at h
  by_cases hinteger : (fraction.isEmpty && exponent.isNone) = true
  · rw [if_pos hinteger] at h
    by_cases hlong : maxIntegerDigits < whole.length
    · rw [if_pos hlong] at h
      obtain ⟨rfl, -⟩ := Prod.mk.inj (Option.some.inj h)
      trivial
    rw [if_neg hlong] at h
    obtain ⟨rfl, -⟩ := Prod.mk.inj (Option.some.inj h)
    have hvalue : Text.digitsValue whole < 10 ^ maxIntegerDigits :=
      (Text.digitsValue_lt hdigits).trans_le
        (Nat.pow_le_pow_right (by decide) (not_lt.mp hlong))
    refine Value.IsSimple.integer ?_
    split_ifs <;> simpa [n] using hvalue
  · rw [if_neg hinteger] at h
    obtain ⟨rfl, -⟩ := Prod.mk.inj (Option.some.inj h)
    exact Value.IsSimple.float x

/-- The tokens of a text of certain code points bear the strings that are read from such texts. -/
lemma bears_tokensFrom {C : CodePoint → Prop}
    (hS : ∀ {t s tail : Text}, (∀ c ∈ t, C c) → ReadsString t s tail → S s) (fuel p : ℕ) {t : Text}
    (ht : ∀ c ∈ t, C c) : ∀ placed ∈ tokensFrom fuel p t, Bears S placed.2 := by
  induction fuel generalizing p t with
  | zero => simp [tokensFrom]
  | succ fuel ih =>
    match t with
    | [] => simp [tokensFrom]
    | c :: rest =>
      have hrest : ∀ c ∈ rest, C c := fun c hc => ht c (List.mem_cons_of_mem _ hc)
      rw [tokensFrom]
      split
      · exact ih _ hrest
      · split
        · next token hmark => exact List.forall_mem_cons.mpr ⟨bears_of_mark? hmark, ih _ hrest⟩
        · split
          · split
            · next s tail q hread =>
              have hstring := readsString_of_readString hread
              exact List.forall_mem_cons.mpr ⟨hS hrest hstring,
                ih _ fun c hc => hrest c (hstring.isSuffix.subset hc)⟩
            · exact List.forall_mem_singleton.mpr trivial
          · split
            · next token length hhead =>
              refine List.forall_mem_cons.mpr ⟨?_, ih _ fun c hc => ht c (List.mem_of_mem_drop hc)⟩
              rcases (Option.orElse_eq_some _ _ _).mp hhead with hword | ⟨-, hnumber⟩
              · exact bears_of_word? hword
              · exact bears_of_number? hnumber
            · exact List.forall_mem_singleton.mpr trivial

/-! ## The three readers -/

/-- Simple values and strings of the kind have the property, by the depth that is left, and parts
hand it on to what they are the parts of. -/
structure Inherited (S : Text → Prop) (Q : ℕ → Value → Prop) : Prop where
  simple : ∀ depth v, v.IsSimple → Q depth v
  string : ∀ depth t, S t → Q depth (.string t)
  array : ∀ depth items, (∀ item ∈ items, Q depth item) → Q (depth + 1) (.array items)
  object : ∀ depth (ms : Members), (∀ m ∈ ms, S m.1 ∧ Q depth m.2) →
    Q (depth + 1) (.object (Members.ofList ms))

/-- What a reader answers satisfies the condition, and the tokens after it bear the strings. -/
def Answers (S : Text → Prop) {α : Type} (P : α → Prop) :
    Except Fault (α × List PlacedToken) → Prop
  | .ok (a, rest) => P a ∧ ∀ placed ∈ rest, Bears S placed.2
  | .error _ => True

lemma Answers.bind {α β : Type} {P : α → Prop} {P' : β → Prop}
    {r : Except Fault (α × List PlacedToken)}
    {f : α × List PlacedToken → Except Fault (β × List PlacedToken)} (h : Answers S P r)
    (hf : ∀ a rest, P a → (∀ placed ∈ rest, Bears S placed.2) → Answers S P' (f (a, rest))) :
    Answers S P' (r >>= f) := by
  cases r with
  | error fault => trivial
  | ok answer => exact hf _ _ h.1 h.2

/-- The three readers, given so much fuel, answer tokens that bear the strings with values that have
the property. -/
structure ReadersKeep (S : Text → Prop) (Q : ℕ → Value → Prop) (endPosition fuel : ℕ) : Prop where
  value : ∀ depth ts, (∀ placed ∈ ts, Bears S placed.2) →
    Answers S (Q depth) (readValue endPosition fuel depth ts)
  items : ∀ depth ts, (∀ placed ∈ ts, Bears S placed.2) →
    Answers S (fun items => ∀ item ∈ items, Q depth item) (readItems endPosition fuel depth ts)
  members : ∀ depth ts, (∀ placed ∈ ts, Bears S placed.2) →
    Answers S (fun ms => ∀ m ∈ ms, S m.1 ∧ Q depth m.2) (readMembers endPosition fuel depth ts)

namespace Inherited

variable (hQ : Inherited S Q)

include hQ

lemma answers_readValue (ih : ReadersKeep S Q endPosition fuel) (depth : ℕ)
    (h : ∀ placed ∈ ts, Bears S placed.2) :
    Answers S (Q depth) (readValue endPosition (fuel + 1) depth ts) := by
  rw [readValue.eq_def]
  dsimp only
  split
  · obtain ⟨hv, hrest⟩ := List.forall_mem_cons.mp h
    exact ⟨hQ.simple depth _ hv, hrest⟩
  · obtain ⟨hs, hrest⟩ := List.forall_mem_cons.mp h
    exact ⟨hQ.string depth _ hs, hrest⟩
  · trivial
  · trivial
  · cases depth with
    | zero => trivial
    | succ depth =>
      have hrest := (List.forall_mem_cons.mp h).2
      dsimp only
      split
      · exact ⟨hQ.array depth [] (by simp), (List.forall_mem_cons.mp hrest).2⟩
      · exact (ih.items depth _ hrest).bind fun items rest hitems hrest =>
          ⟨hQ.array depth items hitems, hrest⟩
  · cases depth with
    | zero => trivial
    | succ depth =>
      have hrest := (List.forall_mem_cons.mp h).2
      dsimp only
      split
      · exact ⟨hQ.object depth [] (by simp), (List.forall_mem_cons.mp hrest).2⟩
      · exact (ih.members depth _ hrest).bind fun ms rest hms hrest =>
          ⟨hQ.object depth ms hms, hrest⟩
  · trivial

omit hQ in
lemma answers_readItems (ih : ReadersKeep S Q endPosition fuel) (depth : ℕ)
    (h : ∀ placed ∈ ts, Bears S placed.2) :
    Answers S (fun items => ∀ item ∈ items, Q depth item)
      (readItems endPosition (fuel + 1) depth ts) := by
  rw [readItems.eq_def]
  dsimp only
  refine (ih.value depth ts h).bind fun v rest hv hrest => ?_
  dsimp only
  split
  · exact ⟨List.forall_mem_singleton.mpr hv, (List.forall_mem_cons.mp hrest).2⟩
  · exact (ih.items depth _ (List.forall_mem_cons.mp hrest).2).bind fun items rest hitems hrest =>
      ⟨List.forall_mem_cons.mpr ⟨hv, hitems⟩, hrest⟩
  · trivial

omit hQ in
lemma answers_readMembers (ih : ReadersKeep S Q endPosition fuel) (depth : ℕ)
    (h : ∀ placed ∈ ts, Bears S placed.2) :
    Answers S (fun ms => ∀ m ∈ ms, S m.1 ∧ Q depth m.2)
      (readMembers endPosition (fuel + 1) depth ts) := by
  rw [readMembers.eq_def]
  dsimp only
  split
  · trivial
  · obtain ⟨hname, hcolon⟩ := List.forall_mem_cons.mp h
    refine (ih.value depth _ (List.forall_mem_cons.mp hcolon).2).bind fun v rest hv hrest => ?_
    dsimp only
    split
    · exact ⟨List.forall_mem_singleton.mpr ⟨hname, hv⟩, (List.forall_mem_cons.mp hrest).2⟩
    · refine (ih.members depth _ (List.forall_mem_cons.mp hrest).2).bind fun ms rest hms hrest => ?_
      exact ⟨List.forall_mem_cons.mpr ⟨⟨hname, hv⟩, hms⟩, hrest⟩
    · trivial
  · trivial
  · trivial

lemma readers (endPosition fuel : ℕ) : ReadersKeep S Q endPosition fuel := by
  induction fuel with
  | zero => exact ⟨fun _ _ _ => trivial, fun _ _ _ => trivial, fun _ _ _ => trivial⟩
  | succ fuel ih =>
    exact ⟨fun depth _ => hQ.answers_readValue ih depth, fun depth _ => answers_readItems ih depth,
      fun depth _ => answers_readMembers ih depth⟩

/-- Whatever is read from a text of certain code points has a property that the strings read from
such texts, and the parts of a whole, hand on. -/
lemma of_read {C : CodePoint → Prop}
    (hS : ∀ {t s tail : Text}, (∀ c ∈ t, C c) → ReadsString t s tail → S s) (ht : ∀ c ∈ t, C c)
    (h : read depth t = .ok v) : Q depth v := by
  unfold read at h
  split_ifs at h
  obtain ⟨⟨found, rest⟩, hfound, hend⟩ := Outcome.bind_eq_ok.mp h
  have hanswer := (hQ.readers t.length (2 * (tokens t).length + 1)).value depth (tokens t)
    (bears_tokensFrom hS t.length 0 ht)
  rw [hfound] at hanswer
  cases rest with
  | nil =>
    cases hend
    exact hanswer.1
  | cons _ _ => cases hend

end Inherited

end Json

end StructuredData
