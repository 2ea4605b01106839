import Mathlib.Tactic.Common
import StructuredData.Files.Filing

/-!
# How filing work runs

Work on a file tree ends with a result or a fault, and leaves a tree either way.  Each operation has
one lemma that says how it ends, and `on_bind` takes work apart into its steps.
-/

namespace StructuredData

namespace Filing

variable {ε α β : Type} {t t' : FileTree}

lemma on_bind (work : Filing ε α) (next : α → Filing ε β) :
    (work >>= next).on t = match work.on t with
      | (.ok a, after) => (next a).on after
      | (.error e, after) => (.error e, after) := by
  have hstep : (work >>= next).on t =
      (ExceptT.bindCont next (work.on t).1).run (work.on t).2 := rfl
  rw [hstep]
  cases work.on t with
  | mk result after => cases result <;> rfl

lemma on_bind_eq_ok {work : Filing ε α} {next : α → Filing ε β} {b : β} :
    (work >>= next).on t = (.ok b, t') ↔
      ∃ a after, work.on t = (.ok a, after) ∧ (next a).on after = (.ok b, t') := by
  rw [on_bind]
  cases work.on t with
  | mk result after => cases result <;> simp

/-- A single operation that fails leaves the tree as it is. -/
lemma on_step (operation : FileTree → Except FileFault FileTree) (wrap : FileFault → ε) :
    (step operation wrap).on t = match operation t with
      | .ok after => (.ok (), after)
      | .error fault => (.error (wrap fault), t) := by
  have hstep : (step operation wrap).on t =
      (match operation t with
        | .ok tree => set tree
        | .error fault => throw (wrap fault) : Filing ε Unit).on t := rfl
  rw [hstep]
  cases operation t <;> rfl

lemma on_step_eq_ok {operation : FileTree → Except FileFault FileTree} {wrap : FileFault → ε} :
    (step operation wrap).on t = (.ok (), t') ↔ operation t = .ok t' := by
  rw [on_step]
  cases operation t <;> simp

/-- Texts are written as far as they have octets. -/
lemma on_writeTexts (path : Text) (texts : List Text) (wrap : FileFault → ε)
    (refuse : Utf8.EncodeError → ε) :
    (writeTexts path texts wrap refuse).on t =
      match t.writeText path (Utf8.encodeAll texts).1 with
      | .ok after => ((Utf8.encodeAll texts).2.elim (.ok ()) fun e => .error (refuse e), after)
      | .error fault => (.error (wrap fault), t) := by
  unfold writeTexts
  dsimp only
  rw [on_bind, on_step]
  cases t.writeText path (Utf8.encodeAll texts).1 with
  | error fault => rfl
  | ok after => cases (Utf8.encodeAll texts).2 <;> rfl

lemma on_writeTexts_eq_ok {path : Text} {texts : List Text} {wrap : FileFault → ε}
    {refuse : Utf8.EncodeError → ε} :
    (writeTexts path texts wrap refuse).on t = (.ok (), t') ↔
      (Utf8.encodeAll texts).2 = none ∧ t.writeText path (Utf8.encodeAll texts).1 = .ok t' := by
  rw [on_writeTexts]
  cases t.writeText path (Utf8.encodeAll texts).1 with
  | error fault => simp
  | ok after => cases (Utf8.encodeAll texts).2 <;> simp

lemma on_makeDirectories (p : Path) (wrap : FileFault → ε) :
    (makeDirectories p wrap).on t =
      ((t.grow p).2.elim (.ok ()) fun fault => .error (wrap fault), (t.grow p).1) := by
  have hget : (get : Filing ε FileTree).on t = (.ok t, t) := rfl
  have hset : (set (t.grow p).1 : Filing ε PUnit).on t = (.ok ⟨⟩, (t.grow p).1) := rfl
  unfold makeDirectories
  rw [on_bind, hget]
  dsimp only
  rw [on_bind, hset]
  dsimp only
  cases (t.grow p).2 <;> rfl

lemma on_makeDirectories_eq_ok {p : Path} {wrap : FileFault → ε} :
    (makeDirectories p wrap).on t = (.ok (), t') ↔ t.grow p = (t', none) := by
  rw [on_makeDirectories]
  obtain ⟨after, fault⟩ := t.grow p
  cases fault <;> simp

/-! ## The faults of some work -/

/-- Whatever the tree, the work ends well or with a fault of the given sort. -/
def FailsOnlyWith (P : ε → Prop) (work : Filing ε α) : Prop :=
  ∀ t e, (work.on t).1 = .error e → P e

variable {P : ε → Prop} {wrap : FileFault → ε}

lemma failsOnlyWith_bind {work : Filing ε α} {next : α → Filing ε β} (h : FailsOnlyWith P work)
    (hnext : ∀ a, FailsOnlyWith P (next a)) : FailsOnlyWith P (work >>= next) := by
  intro t e he
  rw [on_bind] at he
  split at he
  · next a after _ => exact hnext a after e he
  · next e' after hwork =>
    cases he
    exact h t e (congrArg Prod.fst hwork)

lemma failsOnlyWith_makeDirectories {p : Path} (hwrap : ∀ fault, P (wrap fault)) :
    FailsOnlyWith P (makeDirectories p wrap) := by
  intro t e he
  rw [on_makeDirectories] at he
  cases hfault : (t.grow p).2 with
  | none =>
    rw [hfault] at he
    cases he
  | some fault =>
    rw [hfault] at he
    cases he
    exact hwrap fault

lemma failsOnlyWith_writeTexts {path : Text} {texts : List Text}
    {refuse : Utf8.EncodeError → ε} (hwrap : ∀ fault, P (wrap fault))
    (hrefuse : ∀ e, P (refuse e)) : FailsOnlyWith P (writeTexts path texts wrap refuse) := by
  intro t e he
  rw [on_writeTexts] at he
  split at he
  · cases hfault : (Utf8.encodeAll texts).2 with
    | none =>
      rw [hfault] at he
      cases he
    | some fault =>
      rw [hfault] at he
      cases he
      exact hrefuse fault
  · cases he
    exact hwrap _

end Filing

end StructuredData
