import Mathlib.Data.List.Forall2
import Mathlib.Tactic.Common

/-!
# Outcomes of steps and rows of steps

An operation that can fail is a step after another, or a row of steps taken in order.  This module
says when the whole of it succeeds and with which fault it ends otherwise: `bind_eq_ok` and
`bind_eq_error` for one step after another, `mapM_eq_ok` and `mapM_eq_error` for a row, where the
first failing step decides.
-/

namespace StructuredData

namespace Outcome

variable {ε ε' α β : Type}

/-! ## One step after another -/

lemma bind_eq_ok {r : Except ε α} {f : α → Except ε β} {b : β} :
    (r >>= f) = .ok b ↔ ∃ a, r = .ok a ∧ f a = .ok b := by
  cases r <;> simp [bind, Except.bind]

lemma bind_eq_error {r : Except ε α} {f : α → Except ε β} {e : ε} :
    (r >>= f) = .error e ↔ r = .error e ∨ ∃ a, r = .ok a ∧ f a = .error e := by
  cases r <;> simp [bind, Except.bind]

/-- A step whose result is only put into another form fails as the step does. -/
lemma bind_pure_eq_error {r : Except ε α} {form : α → β} {e : ε} :
    (r >>= fun a => pure (form a)) = .error e ↔ r = .error e := by
  cases r <;> simp [bind, Except.bind, pure, Except.pure]

lemma bind_pure_eq_ok {r : Except ε α} {form : α → β} {b : β} :
    (r >>= fun a => pure (form a)) = .ok b ↔ ∃ a, r = .ok a ∧ form a = b := by
  cases r <;> simp [bind, Except.bind, pure, Except.pure]

lemma mapError_eq_ok {r : Except ε α} {wrap : ε → ε'} {a : α} :
    r.mapError wrap = .ok a ↔ r = .ok a := by
  cases r <;> simp [Except.mapError]

lemma mapError_eq_error {r : Except ε α} {wrap : ε → ε'} {e : ε'} :
    r.mapError wrap = .error e ↔ ∃ fault, r = .error fault ∧ wrap fault = e := by
  cases r <;> simp [Except.mapError]

lemma eq_ok_of_toOption {r : Except ε α} {a : α} (h : r.toOption = some a) : r = .ok a := by
  cases r with
  | ok b => exact congrArg Except.ok (Option.some.inj h)
  | error e => cases h

lemma exists_eq_ok_of_isSome {r : Except ε α} (h : r.toOption.isSome = true) :
    ∃ a, r = .ok a := by
  obtain ⟨a, ha⟩ := Option.isSome_iff_exists.mp h
  exact ⟨a, eq_ok_of_toOption ha⟩

lemma not_isOk_iff {r : Except ε α} : (¬ ∃ a, r = .ok a) ↔ ∃ e, r = .error e := by
  cases r <;> simp

/-! ## Rows of steps -/

lemma mapM_eq_ok {f : α → Except ε β} {xs : List α} {ys : List β} :
    xs.mapM f = .ok ys ↔ List.Forall₂ (fun x y => f x = .ok y) xs ys := by
  induction xs generalizing ys with
  | nil => cases ys <;> simp [pure, Except.pure]
  | cons x xs ih =>
    rw [List.mapM_cons, bind_eq_ok, List.forall₂_cons_left_iff]
    constructor
    · rintro ⟨y, hy, h⟩
      obtain ⟨rest, hrest, hpure⟩ := bind_eq_ok.mp h
      cases hpure
      exact ⟨y, rest, hy, ih.mp hrest, rfl⟩
    · rintro ⟨y, rest, hy, hrest, rfl⟩
      exact ⟨y, hy, bind_eq_ok.mpr ⟨rest, ih.mpr hrest, rfl⟩⟩

/-- Two rows of results, the second made of the first, are one row of results made in two steps. -/
lemma exists_forall₂_forall₂_iff {γ : Type} {R : α → β → Prop} {S : β → γ → Prop} {xs : List α}
    {zs : List γ} :
    (∃ ys, List.Forall₂ R xs ys ∧ List.Forall₂ S ys zs) ↔
      List.Forall₂ (fun x z => ∃ y, R x y ∧ S y z) xs zs := by
  constructor
  · rintro ⟨ys, hR, hS⟩
    induction hR generalizing zs with
    | nil => cases hS; exact .nil
    | cons hx _ ih =>
      obtain ⟨z, rest, hz, hrest, rfl⟩ := List.forall₂_cons_left_iff.mp hS
      exact .cons ⟨_, hx, hz⟩ (ih hrest)
  · intro h
    induction h with
    | nil => exact ⟨[], .nil, .nil⟩
    | cons hx _ ih =>
      obtain ⟨y, hR, hS⟩ := hx
      obtain ⟨ys, hxs, hzs⟩ := ih
      exact ⟨y :: ys, .cons hR hxs, .cons hS hzs⟩

/-- A row ends with the fault of its first failing step, the steps in front of it having
succeeded. -/
lemma mapM_eq_error {f : α → Except ε β} {xs : List α} {e : ε} :
    xs.mapM f = .error e ↔
      ∃ done x rest, xs = done ++ x :: rest ∧ (∀ a ∈ done, ∃ b, f a = .ok b) ∧
        f x = .error e := by
  induction xs with
  | nil => simp [pure, Except.pure]
  | cons x xs ih =>
    rw [List.mapM_cons, bind_eq_error]
    constructor
    · rintro (h | ⟨y, hy, h⟩)
      · exact ⟨[], x, xs, rfl, by simp, h⟩
      · obtain hfault | ⟨ys, -, hpure⟩ := bind_eq_error.mp h
        · obtain ⟨done, z, rest, rfl, hdone, hz⟩ := ih.mp hfault
          refine ⟨x :: done, z, rest, rfl, ?_, hz⟩
          intro a ha
          rcases List.mem_cons.mp ha with rfl | ha
          · exact ⟨y, hy⟩
          · exact hdone a ha
        · cases hpure
    · rintro ⟨done, z, rest, hsplit, hdone, hz⟩
      cases done with
      | nil =>
        obtain ⟨rfl, rfl⟩ := List.cons.inj hsplit
        exact .inl hz
      | cons a done =>
        obtain ⟨rfl, rfl⟩ := List.cons.inj hsplit
        obtain ⟨y, hy⟩ := hdone x (by simp)
        have htail := ih.mpr ⟨done, z, rest, rfl, fun b hb => hdone b (by simp [hb]), hz⟩
        exact .inr ⟨y, hy, bind_eq_error.mpr (.inl htail)⟩

lemma mapM_isOk_iff {f : α → Except ε β} {xs : List α} :
    (∃ ys, xs.mapM f = .ok ys) ↔ ∀ x ∈ xs, ∃ y, f x = .ok y := by
  constructor
  · rintro ⟨ys, h⟩ x hx
    induction mapM_eq_ok.mp h with
    | nil => simp at hx
    | @cons a y xs ys ha hrest ih =>
      rcases List.mem_cons.mp hx with rfl | hx
      · exact ⟨y, ha⟩
      · exact ih (mapM_eq_ok.mpr hrest) hx
  · intro h
    by_contra hnone
    obtain ⟨e, he⟩ := not_isOk_iff.mp hnone
    obtain ⟨done, x, rest, rfl, -, hx⟩ := mapM_eq_error.mp he
    obtain ⟨y, hy⟩ := h x (by simp)
    simp [hx] at hy

/-- Where the steps know one fault only, a row fails as soon as one of its steps does. -/
lemma mapM_eq_error_of_only {f : α → Except ε β} {xs : List α} {only e : ε}
    (honly : ∀ x ∈ xs, ∀ fault, f x = .error fault → fault = only) :
    xs.mapM f = .error e ↔ e = only ∧ ∃ x ∈ xs, f x = .error only := by
  have hfault : ∀ fault, xs.mapM f = .error fault → fault = only ∧ ∃ x ∈ xs, f x = .error only := by
    intro fault h
    obtain ⟨done, x, rest, rfl, -, hx⟩ := mapM_eq_error.mp h
    obtain rfl := honly x (by simp) fault hx
    exact ⟨rfl, x, by simp, hx⟩
  refine ⟨hfault e, ?_⟩
  rintro ⟨rfl, x, hx, hfail⟩
  have hnone : ¬ ∃ ys, xs.mapM f = .ok ys := by
    intro hok
    obtain ⟨y, hy⟩ := mapM_isOk_iff.mp hok x hx
    rw [hfail] at hy
    cases hy
  obtain ⟨fault, h⟩ := not_isOk_iff.mp hnone
  obtain ⟨rfl, -⟩ := hfault fault h
  exact h

end Outcome

end StructuredData
