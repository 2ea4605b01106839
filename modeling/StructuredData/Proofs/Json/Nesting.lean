import Mathlib.Order.Nat
import Mathlib.Tactic.Common
import StructuredData.Json.Reader

/-!
# When a JSON text nests too deep

The reader refuses a text when it meets one bracket too many, unless it has met another fault
before.  This module says what that means without the reader: `Progress` walks over the tokens of a
text and keeps nothing but the containers that are open and what may come next, and `nesting` is
the largest number of containers that are open together before the first token that cannot come
next.  The main result, `read_eq_tooDeep_iff`, says that a text is refused for its depth exactly
when its nesting is more than the depth up to which it is read.

The walk has no bound on the nesting, no fuel and no values; the reader has all three.  `Tells`
relates the two for one call of the reader, and `readersTell` proves it for the three readers
together, by induction on their fuel.
-/

namespace StructuredData

namespace Json

/-! ## Walking over tokens -/

/-- What may come next: `element` is a value or the end of an array that has no elements yet,
`member` a name or the end of an object that has no members yet. -/
inductive Expected
  | value
  | element
  | name
  | member
  | colon
  | separator
deriving DecidableEq

/-- How far the walk has come: the open containers, innermost first, and what may come next. -/
structure Progress where
  inside : List Container
  next : Expected

namespace Progress

/-- What a token leads to where a value may start. -/
def startValue (inside : List Container) : Token → Option Progress
  | .openArray => some ⟨.array :: inside, .element⟩
  | .openObject => some ⟨.object :: inside, .member⟩
  | .scalar _ => some ⟨inside, .separator⟩
  | .string _ => some ⟨inside, .separator⟩
  | _ => none

/-- What a token leads to where a name may start. -/
def startName (inside : List Container) : Token → Option Progress
  | .string _ => some ⟨inside, .colon⟩
  | _ => none

/-- What a token leads to behind an element or a member of the innermost container. -/
def separate : List Container → Token → Option Progress
  | .array :: outer, .comma => some ⟨.array :: outer, .value⟩
  | .array :: outer, .closeArray => some ⟨outer, .separator⟩
  | .object :: outer, .comma => some ⟨.object :: outer, .name⟩
  | .object :: outer, .closeObject => some ⟨outer, .separator⟩
  | _, _ => none

/-- What a token leads to, if it may come next. -/
def step (p : Progress) (t : Token) : Option Progress :=
  match p.next, t with
  | .value, t => startValue p.inside t
  | .element, .closeArray => some ⟨p.inside.tail, .separator⟩
  | .element, t => startValue p.inside t
  | .name, t => startName p.inside t
  | .member, .closeObject => some ⟨p.inside.tail, .separator⟩
  | .member, t => startName p.inside t
  | .colon, .colon => some ⟨p.inside, .value⟩
  | .colon, _ => none
  | .separator, t => separate p.inside t

/-- The most containers that are open together, up to the first token that cannot come next. -/
def nesting (p : Progress) : List PlacedToken → ℕ
  | [] => p.inside.length
  | t :: rest =>
    match p.step t.2 with
    | none => p.inside.length
    | some next => max p.inside.length (next.nesting rest)

end Progress

/-- How deep the brackets of a text nest, up to the first token that cannot come next. -/
def nesting (t : Text) : ℕ := Progress.nesting ⟨[], .value⟩ (tokens t)

variable {before mid after : Progress} {ts : List PlacedToken} {t : PlacedToken}

lemma inside_le_nesting (p : Progress) (ts : List PlacedToken) :
    p.inside.length ≤ p.nesting ts := by
  cases ts with
  | nil => exact le_rfl
  | cons t rest =>
    unfold Progress.nesting
    split
    · exact le_rfl
    · exact le_max_left _ _

lemma nesting_of_step_eq_some (hstep : before.step t.2 = some mid) (rest : List PlacedToken) :
    before.nesting (t :: rest) = max before.inside.length (mid.nesting rest) := by
  rw [Progress.nesting, hstep]

lemma nesting_of_step_eq_none (hstep : before.step t.2 = none) (rest : List PlacedToken) :
    before.nesting (t :: rest) = before.inside.length := by
  rw [Progress.nesting, hstep]

/-- Nothing may follow the value of a text. -/
lemma nesting_end (ts : List PlacedToken) : Progress.nesting ⟨[], .separator⟩ ts = 0 := by
  match ts with
  | [] => rfl
  | (p, t) :: rest => exact nesting_of_step_eq_none (by cases t <;> rfl) rest

lemma nesting_element (inside : List Container) (hts : ∀ p rest, ts ≠ (p, .closeArray) :: rest) :
    Progress.nesting ⟨inside, .element⟩ ts = Progress.nesting ⟨inside, .value⟩ ts := by
  match ts with
  | [] => rfl
  | (p, t) :: rest =>
    cases t with
    | closeArray => exact absurd rfl (hts p rest)
    | _ => rfl

lemma nesting_member (inside : List Container) (hts : ∀ p rest, ts ≠ (p, .closeObject) :: rest) :
    Progress.nesting ⟨inside, .member⟩ ts = Progress.nesting ⟨inside, .name⟩ ts := by
  match ts with
  | [] => rfl
  | (p, t) :: rest =>
    cases t with
    | closeObject => exact absurd rfl (hts p rest)
    | _ => rfl

/-! ## What an answer of the reader tells about the nesting -/

/-- A reader that starts at `before` with the tokens `ts`, and would end at `after`, tells whether
the nesting of its tokens goes beyond the limit: if it answers, that is left to the tokens behind,
and if it fails, it does so for their depth exactly if the nesting goes beyond the limit. -/
def Tells {α : Type} (limit : ℕ) (before : Progress) (ts : List PlacedToken) (after : Progress) :
    Except Fault (α × List PlacedToken) → Prop
  | .ok (_, rest) =>
    rest.length ≤ ts.length ∧ (limit < before.nesting ts ↔ limit < after.nesting rest)
  | .error fault => (∃ container, fault = .tooDeep container) ↔ limit < before.nesting ts

namespace Tells

variable {α β : Type} {limit : ℕ}

lemma ok (a : α) : Tells limit before ts before (.ok (a, ts)) := ⟨le_rfl, Iff.rfl⟩

lemma tooDeep {container : Container} (hnest : limit < before.nesting ts) :
    Tells limit before ts after
      (.error (.tooDeep container) : Except Fault (α × List PlacedToken)) :=
  ⟨fun _ => hnest, fun _ => ⟨container, rfl⟩⟩

lemma failed {fault : Fault} (hfault : ∀ container, fault ≠ .tooDeep container)
    (hnest : before.nesting ts ≤ limit) :
    Tells limit before ts after (.error fault : Except Fault (α × List PlacedToken)) :=
  ⟨fun ⟨container, h⟩ => absurd h (hfault container), fun h => absurd h (not_lt.mpr hnest)⟩

/-- A fault at a token that cannot come next. -/
lemma refused {fault : Fault} {rest : List PlacedToken}
    (hfault : ∀ container, fault ≠ .tooDeep container) (hstep : before.step t.2 = none)
    (hlimit : before.inside.length ≤ limit) :
    Tells limit before (t :: rest) after (.error fault : Except Fault (α × List PlacedToken)) :=
  failed hfault (by rwa [nesting_of_step_eq_none hstep])

lemma of_nesting_eq {r : Except Fault (α × List PlacedToken)}
    (hnest : before.nesting ts = mid.nesting ts) (h : Tells limit mid ts after r) :
    Tells limit before ts after r := by
  cases r with
  | ok answer => exact ⟨h.1, hnest ▸ h.2⟩
  | error fault => exact Iff.trans h (by rw [hnest])

/-- One token taken before a reader starts. -/
lemma cons {r : Except Fault (α × List PlacedToken)} (hlimit : before.inside.length ≤ limit)
    (mid : Progress) (hstep : before.step t.2 = some mid) (h : Tells limit mid ts after r) :
    Tells limit before (t :: ts) after r := by
  have hiff : limit < before.nesting (t :: ts) ↔ limit < mid.nesting ts := by
    rw [nesting_of_step_eq_some hstep]
    omega
  cases r with
  | ok answer => exact ⟨h.1.trans (Nat.le_succ _), hiff.trans h.2⟩
  | error fault => exact Iff.trans h hiff.symm

/-- One reader after another. -/
lemma bind {r : Except Fault (α × List PlacedToken)}
    {f : α × List PlacedToken → Except Fault (β × List PlacedToken)}
    (h : Tells limit before ts mid r)
    (hf : ∀ a rest, rest.length ≤ ts.length → Tells limit mid rest after (f (a, rest))) :
    Tells limit before ts after (r >>= f) := by
  cases r with
  | error fault => exact h
  | ok answer =>
    obtain ⟨a, rest⟩ := answer
    obtain ⟨hlen, hiff⟩ := h
    have hnext := hf a rest hlen
    change Tells limit before ts after (f (a, rest))
    cases hr : f (a, rest) with
    | ok answer =>
      rw [hr] at hnext
      exact ⟨hnext.1.trans hlen, hiff.trans hnext.2⟩
    | error fault =>
      rw [hr] at hnext
      exact Iff.trans hnext hiff.symm

end Tells

/-! ## The three readers -/

/-- The three readers tell, given so much fuel, whether the nesting goes beyond what is left of the
depth. -/
structure ReadersTell (endPosition fuel : ℕ) : Prop where
  value : ∀ depth ts inside, 2 * ts.length ≤ fuel →
    Tells (inside.length + depth) ⟨inside, .value⟩ ts ⟨inside, .separator⟩
      (readValue endPosition fuel depth ts)
  items : ∀ depth ts inside, 2 * ts.length < fuel →
    Tells (inside.length + 1 + depth) ⟨.array :: inside, .value⟩ ts ⟨inside, .separator⟩
      (readItems endPosition fuel depth ts)
  members : ∀ depth ts inside, 2 * ts.length < fuel →
    Tells (inside.length + 1 + depth) ⟨.object :: inside, .name⟩ ts ⟨inside, .separator⟩
      (readMembers endPosition fuel depth ts)

variable {endPosition fuel : ℕ}

lemma tooDeep_of_step {p : Progress} {outer : List Container} {container : Container}
    {rest : List PlacedToken} {α : Type} (hlength : p.inside.length = outer.length + 1)
    (hstep : Progress.step ⟨outer, .value⟩ t.2 = some p) :
    Tells (outer.length + 0) ⟨outer, .value⟩ (t :: rest) after
      (.error (.tooDeep container) : Except Fault (α × List PlacedToken)) := by
  refine .tooDeep ?_
  have hinside := inside_le_nesting p rest
  rw [nesting_of_step_eq_some hstep]
  omega

lemma readValue_tells (ih : ReadersTell endPosition fuel) (depth : ℕ) (inside : List Container)
    (hfuel : 2 * ts.length ≤ fuel + 1) :
    Tells (inside.length + depth) ⟨inside, .value⟩ ts ⟨inside, .separator⟩
      (readValue endPosition (fuel + 1) depth ts) := by
  have hlimit : (⟨inside, .value⟩ : Progress).inside.length ≤ inside.length + depth :=
    Nat.le_add_right _ _
  rw [readValue.eq_def]
  dsimp only
  split
  · exact .cons hlimit _ rfl (.ok _)
  · exact .cons hlimit _ rfl (.ok _)
  · exact .refused nofun rfl hlimit
  · exact .refused nofun rfl hlimit
  · next rest =>
    cases depth with
    | zero => exact tooDeep_of_step rfl rfl
    | succ depth =>
      refine .cons hlimit ⟨.array :: inside, .element⟩ rfl ?_
      dsimp only
      split
      · exact .cons (by simp) _ rfl (.ok _)
      · next hclose =>
        rw [List.length_cons] at hfuel
        have h := ih.items depth rest inside (by omega)
        rw [Nat.add_assoc, Nat.add_comm 1] at h
        refine .bind (.of_nesting_eq (nesting_element _ ?_) h) fun _ _ _ => .ok _
        simpa using hclose
  · next rest =>
    cases depth with
    | zero => exact tooDeep_of_step rfl rfl
    | succ depth =>
      refine .cons hlimit ⟨.object :: inside, .member⟩ rfl ?_
      dsimp only
      split
      · exact .cons (by simp) _ rfl (.ok _)
      · next hclose =>
        rw [List.length_cons] at hfuel
        have h := ih.members depth rest inside (by omega)
        rw [Nat.add_assoc, Nat.add_comm 1] at h
        refine .bind (.of_nesting_eq (nesting_member _ ?_) h) fun _ _ _ => .ok _
        simpa using hclose
  · next hscalar hstring _ _ harray hobject =>
    match ts with
    | [] => exact .failed nofun hlimit
    | (p, t) :: rest =>
      refine .refused nofun ?_ hlimit
      cases t with
      | scalar v => exact absurd rfl (hscalar p v rest)
      | string t => exact absurd rfl (hstring p t rest)
      | openArray => exact absurd rfl (harray p rest)
      | openObject => exact absurd rfl (hobject p rest)
      | _ => rfl

lemma readItems_tells (ih : ReadersTell endPosition fuel) (depth : ℕ) (inside : List Container)
    (hfuel : 2 * ts.length < fuel + 1) :
    Tells (inside.length + 1 + depth) ⟨.array :: inside, .value⟩ ts ⟨inside, .separator⟩
      (readItems endPosition (fuel + 1) depth ts) := by
  have hlimit : (⟨.array :: inside, .separator⟩ : Progress).inside.length ≤
      inside.length + 1 + depth := Nat.le_add_right _ _
  rw [readItems.eq_def]
  dsimp only
  refine .bind (ih.value depth ts (.array :: inside) (by omega)) fun v rest hlen => ?_
  dsimp only
  split
  · exact .cons hlimit _ rfl (.ok _)
  · next rest =>
    rw [List.length_cons] at hlen
    have h := ih.items depth rest inside (by omega)
    exact .cons hlimit _ rfl (.bind h fun _ _ _ => .ok _)
  · next hclose hcomma =>
    match rest with
    | [] => exact .failed nofun hlimit
    | (p, t) :: rest =>
      refine .refused nofun ?_ hlimit
      cases t with
      | closeArray => exact absurd rfl (hclose p rest)
      | comma => exact absurd rfl (hcomma p rest)
      | _ => rfl

lemma readMembers_tells (ih : ReadersTell endPosition fuel) (depth : ℕ) (inside : List Container)
    (hfuel : 2 * ts.length < fuel + 1) :
    Tells (inside.length + 1 + depth) ⟨.object :: inside, .name⟩ ts ⟨inside, .separator⟩
      (readMembers endPosition (fuel + 1) depth ts) := by
  have hlimit : ∀ next, (⟨.object :: inside, next⟩ : Progress).inside.length ≤
      inside.length + 1 + depth := fun _ => Nat.le_add_right _ _
  rw [readMembers.eq_def]
  dsimp only
  split
  · exact .refused nofun rfl (hlimit _)
  · next rest =>
    rw [List.length_cons, List.length_cons] at hfuel
    refine .cons (hlimit _) ⟨.object :: inside, .colon⟩ rfl (.cons (hlimit _) _ rfl ?_)
    refine .bind (ih.value depth rest (.object :: inside) (by omega)) fun v rest hlen => ?_
    dsimp only
    split
    · exact .cons (hlimit _) _ rfl (.ok _)
    · next rest =>
      rw [List.length_cons] at hlen
      have h := ih.members depth rest inside (by omega)
      exact .cons (hlimit _) _ rfl (.bind h fun _ _ _ => .ok _)
    · next hclose hcomma =>
      match rest with
      | [] => exact .failed nofun (hlimit _)
      | (p, t) :: rest =>
        refine .refused nofun ?_ (hlimit _)
        cases t with
        | closeObject => exact absurd rfl (hclose p rest)
        | comma => exact absurd rfl (hcomma p rest)
        | _ => rfl
  · next rest hcolon =>
    refine .cons (hlimit _) ⟨.object :: inside, .colon⟩ rfl ?_
    match rest with
    | [] => exact .failed nofun (hlimit _)
    | (p, t) :: rest =>
      refine .refused nofun ?_ (hlimit _)
      cases t with
      | colon => exact absurd rfl (hcolon p rest)
      | _ => rfl
  · next _ _ hstring =>
    match ts with
    | [] => exact .failed nofun (hlimit _)
    | (p, t) :: rest =>
      refine .refused nofun ?_ (hlimit _)
      cases t with
      | string t => exact absurd rfl (hstring p t rest)
      | _ => rfl

/-- The readers tell whether the nesting goes beyond the limit, as long as the fuel is twice the
number of the tokens: a container costs one unit for its reader and one for that of its first
value. -/
lemma readersTell (endPosition fuel : ℕ) : ReadersTell endPosition fuel := by
  induction fuel with
  | zero =>
    refine ⟨fun depth ts inside hfuel => ?_, fun _ _ _ hfuel => ?_, fun _ _ _ hfuel => ?_⟩
    · have hnil : ts = [] := List.length_eq_zero_iff.mp (by omega)
      subst hnil
      rw [readValue]
      exact .failed nofun (Nat.le_add_right _ _)
    · omega
    · omega
  | succ fuel ih =>
    exact ⟨fun depth _ inside => readValue_tells ih depth inside,
      fun depth _ inside => readItems_tells ih depth inside,
      fun depth _ inside => readMembers_tells ih depth inside⟩

/-! ## Texts -/

lemma tokens_byteOrderMark {c : CodePoint} (hc : c.val = 0xFEFF) (rest : Text) :
    tokens (c :: rest) = [(0, .stray)] := by
  have hne : ∀ d : Char, d.toNat ≠ 0xFEFF → c ≠ (d : CodePoint) := by
    intro d hd h
    exact hd (by rw [← hc, h]; rfl)
  have hword : word? (c :: rest) = none := by
    simp [word?, valueWords, Text.ofString, fun d hd => (hne d hd).symm]
  have hnumber : number? (c :: rest) = none := by
    simp [number?, CodePoint.isAsciiDigit, hc, hne]
  simp [tokens, tokensFrom, isSpace, mark?, hc, hne, hword, hnumber]

/-- A text is refused for its depth exactly when more containers are open together before the first
token that cannot come next. -/
theorem read_eq_tooDeep_iff (depth : ℕ) (t : Text) :
    (∃ container, read depth t = .error (.tooDeep container)) ↔ depth < nesting t := by
  unfold read
  split_ifs with hmark
  · have hzero : nesting t = 0 := by
      match t with
      | [] => rfl
      | c :: rest =>
        rw [nesting, tokens_byteOrderMark (by simpa using hmark)]
        rfl
    simp [hzero]
  · have h := (readersTell t.length (2 * (tokens t).length + 1)).value depth (tokens t) []
      (Nat.le_succ _)
    rw [List.length_nil, Nat.zero_add] at h
    dsimp only
    cases hr : readValue t.length (2 * (tokens t).length + 1) depth (tokens t) with
    | error fault =>
      rw [hr] at h
      exact Iff.trans (by simp [bind, Except.bind]) h
    | ok answer =>
      obtain ⟨v, rest⟩ := answer
      rw [hr] at h
      have hflat : ¬ depth < nesting t := by
        rw [nesting, h.2, nesting_end]
        exact Nat.not_lt_zero _
      simp only [hflat, iff_false, bind, Except.bind]
      cases rest <;> simp

end Json

end StructuredData
