import Mathlib
import StructuredData.Number.Basic

/-!
# Numbers in order

Numbers lie on a line with an infinity at either end, on which an integer and a floating-point
number of the same value share a place; not a number has none.  To compare two numbers is to compare
their places (`le_iff`, `same_iff`), and so comparison is transitive whatever the kinds of the
numbers.
-/

namespace StructuredData

namespace Number

/-- The place of a number on the line; the finite ones are counted in `2 ^ -1074`. -/
def place? : Number → Option (WithBot (WithTop ℤ))
  | .float .nan => none
  | .float (.infinity true) => some ⊥
  | .float (.infinity false) => some (⊤ : WithTop ℤ)
  | a => a.scaled?.map fun n => (n : WithTop ℤ)

variable {a b c : Number}

lemma le_iff : a.le b = true ↔ ∃ p q, a.place? = some p ∧ b.place? = some q ∧ p ≤ q := by
  have hfinite (m n : ℤ) : ((m : WithTop ℤ) : WithBot (WithTop ℤ)) ≤ (n : WithTop ℤ) ↔ m ≤ n := by
    rw [WithBot.coe_le_coe, WithTop.coe_le_coe]
  -- either number is an integer, not a number, one of the infinities or a finite one
  rcases a with m | _ | (_ | _) | _ <;> rcases b with n | _ | (_ | _) | _ <;>
    simp [le, place?, scaled?, Binary64.scaled?, hfinite]

lemma same_iff : a.same b = true ↔ ∃ p, a.place? = some p ∧ b.place? = some p := by
  rw [same, Bool.and_eq_true, le_iff, le_iff]
  constructor
  · rintro ⟨⟨p, q, ha, hb, hle⟩, q', p', hb', ha', hge⟩
    have hp : p' = p := Option.some.inj (ha'.symm.trans ha)
    have hq : q' = q := Option.some.inj (hb'.symm.trans hb)
    have heq : p = q := le_antisymm hle (hp ▸ hq ▸ hge)
    exact ⟨p, ha, heq ▸ hb⟩
  · rintro ⟨p, ha, hb⟩
    exact ⟨⟨p, p, ha, hb, le_rfl⟩, p, p, hb, ha, le_rfl⟩

lemma le_trans (hab : a.le b = true) (hbc : b.le c = true) : a.le c = true := by
  obtain ⟨p, q, ha, hb, hpq⟩ := le_iff.mp hab
  obtain ⟨q', r, hb', hc, hqr⟩ := le_iff.mp hbc
  have hq : q' = q := Option.some.inj (hb'.symm.trans hb)
  exact le_iff.mpr ⟨p, r, ha, hc, hpq.trans (hq ▸ hqr)⟩

/-- Numbers of the same value are equal to the same numbers. -/
lemma same_congr_right (h : b.same c = true) : a.same b = a.same c := by
  obtain ⟨p, hb, hc⟩ := same_iff.mp h
  rw [Bool.eq_iff_iff, same_iff, same_iff, hb, hc]

end Number

end StructuredData
