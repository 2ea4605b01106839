import StructuredData.Proofs.Json.Plain
import StructuredData.Proofs.Number.Limits
import StructuredData.Proofs.Thresholds.Reading

/-!
# What a row of settings comes to

Thresholds are settled by the values of their settings (`ext_get`), and changing one of them leaves
the others (`get_assign`).  So a row of members gives exactly those thresholds in which each setting
that has a member is read from it, and each other one is as before (`assignMembers_eq_ok_iff`).

Thresholds that were given in this way hold numbers of two kinds only: a whole-number setting an
integer of at most 4300 digits, a limit on ratings a floating-point number or its default.
`HoldsGiven` says so; one change keeps it, and so do a row of members and the environment.
-/

namespace StructuredData

namespace Setting

/-- Every setting is read and written. -/
lemma mem_all (s : Setting) : s ∈ all := by
  cases s <;> decide

lemma nodup_all : all.Nodup := by decide

lemma name_injective : Function.Injective name := by
  intro s s' h
  have hnames : ∀ s ∈ all, ∀ s' ∈ all, s.name = s'.name → s = s' := by decide
  exact hnames s (mem_all s) s' (mem_all s') h

end Setting

namespace Thresholds

variable {t t' : Thresholds} {s : Setting} {v : Value} {ms : Members}

/-! ## Settings one by one -/

/-- Thresholds with the same settings are the same. -/
lemma ext_get (h : ∀ s, t.get s = t'.get s) : t = t' := by
  have hwhole : ∀ (s : Setting) {m n : ℤ}, t.get s = .int m → t'.get s = .int n → m = n := by
    intro s m n hm hn
    exact Number.int.inj (hm.symm.trans ((h s).trans hn))
  cases t
  cases t'
  congr 1
  · exact hwhole .descriptionMinLength rfl rfl
  · exact hwhole .descriptionVeryShortLength rfl rfl
  · exact hwhole .descriptionMaxLength rfl rfl
  · exact hwhole .nameMaxLength rfl rfl
  · exact hwhole .headlineMaxLength rfl rfl
  · exact hwhole .keywordMinLength rfl rfl
  · exact hwhole .keywordRepeatLimit rfl rfl
  · exact h .ratingMin
  · exact h .ratingMax
  · exact h .bestRating
  · exact hwhole .maxSchemaTypes rfl rfl
  · exact hwhole .minSchemaTypes rfl rfl
  · exact hwhole .faqMinSchemaTypes rfl rfl

lemma get_setWhole (hs : s.isWhole = true) (n : ℤ) (other : Setting) :
    (t.setWhole n s).get other = if other = s then .int n else t.get other := by
  cases s
  all_goals
    first
      | exact absurd hs (by decide)
      | cases other <;> rfl

lemma get_setReal (hs : s.isWhole = false) (x : Binary64) (other : Setting) :
    (t.setReal x s).get other = if other = s then .float x else t.get other := by
  cases s
  all_goals
    first
      | exact absurd hs (by decide)
      | cases other <;> rfl

/-- A setting is changed to the number that is read for it, and the others are left. -/
lemma assign_eq_ok_iff :
    t.assign s v = .ok t' ↔
      s.read v = .ok (t'.get s) ∧ ∀ other, other ≠ s → t'.get other = t.get other := by
  have hchanged : ∀ {after : Thresholds} {n : Number},
      (∀ other, after.get other = if other = s then n else t.get other) →
        (after = t' ↔ n = t'.get s ∧ ∀ other, other ≠ s → t'.get other = t.get other) := by
    intro after n hafter
    constructor
    · rintro rfl
      refine ⟨by rw [hafter, if_pos rfl], fun other hother => ?_⟩
      rw [hafter, if_neg hother]
    · rintro ⟨hself, hothers⟩
      refine ext_get fun other => ?_
      rw [hafter]
      split_ifs with heq
      · rw [heq, hself]
      · rw [hothers other heq]
  unfold assign Setting.read
  by_cases hwhole : s.isWhole = true
  · rw [if_pos hwhole, if_pos hwhole, Outcome.bind_pure_eq_ok, Outcome.bind_pure_eq_ok]
    constructor
    · rintro ⟨n, hn, hset⟩
      obtain ⟨hself, hothers⟩ := (hchanged (get_setWhole hwhole n)).mp hset
      exact ⟨⟨n, hn, hself⟩, hothers⟩
    · rintro ⟨⟨n, hn, hself⟩, hothers⟩
      exact ⟨n, hn, (hchanged (get_setWhole hwhole n)).mpr ⟨hself, hothers⟩⟩
  · rw [if_neg hwhole, if_neg hwhole, Outcome.bind_pure_eq_ok, Outcome.bind_pure_eq_ok]
    have hreal : s.isWhole = false := by simpa using hwhole
    constructor
    · rintro ⟨x, hx, hset⟩
      obtain ⟨hself, hothers⟩ := (hchanged (get_setReal hreal x)).mp hset
      exact ⟨⟨x, hx, hself⟩, hothers⟩
    · rintro ⟨⟨x, hx, hself⟩, hothers⟩
      exact ⟨x, hx, (hchanged (get_setReal hreal x)).mpr ⟨hself, hothers⟩⟩

/-! ## Rows of settings -/

/-- What members make of a setting: it is read from its member, and stays where there is none. -/
def Settles (ms : Members) (before after : Thresholds) (s : Setting) : Prop :=
  match ms.get? s.name with
  | none => after.get s = before.get s
  | some v => s.read v = .ok (after.get s)

/-- What a setting comes to depends on nothing but its own value before. -/
lemma settles_congr {before before' : Thresholds} (h : before.get s = before'.get s) :
    Settles ms before t s ↔ Settles ms before' t s := by
  unfold Settles
  rw [h]

lemma assignMembers_row_eq_ok_iff {settings : List Setting} (hnodup : settings.Nodup) :
    assignMembers ms t settings = .ok t' ↔
      (∀ s ∈ settings, Settles ms t t' s) ∧ ∀ s, s ∉ settings → t'.get s = t.get s := by
  induction settings generalizing t with
  | nil =>
    have hsame : t = t' ↔ ∀ s, t'.get s = t.get s :=
      ⟨fun h _ => by rw [h], fun h => ext_get fun s => (h s).symm⟩
    simp [assignMembers, hsame]
  | cons s rest ih =>
    obtain ⟨hnew, hrest⟩ := List.nodup_cons.mp hnodup
    rw [List.forall_mem_cons]
    cases hmember : ms.get? s.name with
    | none =>
      have hself : Settles ms t t' s ↔ t'.get s = t.get s := by
        unfold Settles
        rw [hmember]
      rw [assignMembers, hmember]
      dsimp only
      rw [ih hrest, hself]
      constructor
      · rintro ⟨hrow, hothers⟩
        exact ⟨⟨hothers s hnew, hrow⟩,
          fun other hother => hothers other (mt (List.mem_cons_of_mem s) hother)⟩
      · rintro ⟨⟨hs, hrow⟩, hothers⟩
        refine ⟨hrow, fun other hother => ?_⟩
        by_cases heq : other = s
        · rw [heq, hs]
        · exact hothers other (by simp [heq, hother])
    | some v =>
      have hself : Settles ms t t' s ↔ s.read v = .ok (t'.get s) := by
        unfold Settles
        rw [hmember]
      rw [assignMembers, hmember]
      dsimp only
      rw [Outcome.bind_eq_ok, hself]
      -- the row behind the setting starts from thresholds that differ in this setting only
      constructor
      · rintro ⟨after, hassign, hrow⟩
        obtain ⟨hread, hkept⟩ := assign_eq_ok_iff.mp hassign
        obtain ⟨hsettled, hothers⟩ := (ih hrest).mp hrow
        refine ⟨⟨by rw [hread, hothers s hnew], fun other hother => ?_⟩, fun other hother => ?_⟩
        · have hne : other ≠ s := fun heq => hnew (heq ▸ hother)
          exact (settles_congr (hkept other hne)).mp (hsettled other hother)
        · rw [List.mem_cons, not_or] at hother
          rw [hothers other hother.2, hkept other hother.1]
      · rintro ⟨⟨hread, hsettled⟩, hothers⟩
        obtain ⟨after, hassign⟩ := assign_isOk_iff.mpr ⟨_, hread⟩
        obtain ⟨hread', hkept⟩ := assign_eq_ok_iff.mp hassign
        have hsame : t'.get s = after.get s := Except.ok.inj (hread.symm.trans hread')
        refine ⟨after, hassign, (ih hrest).mpr ⟨fun other hother => ?_, fun other hother => ?_⟩⟩
        · have hne : other ≠ s := fun heq => hnew (heq ▸ hother)
          exact (settles_congr (hkept other hne)).mpr (hsettled other hother)
        · by_cases heq : other = s
          · rw [heq, hsame]
          · rw [hothers other (by simp [heq, hother]), hkept other heq]

/-- The members of an object give the thresholds in which each setting is what they make of it. -/
theorem assignMembers_eq_ok_iff :
    assignMembers ms t Setting.all = .ok t' ↔ ∀ s, Settles ms t t' s := by
  rw [assignMembers_row_eq_ok_iff Setting.nodup_all]
  exact ⟨fun h s => h.1 s s.mem_all, fun h => ⟨fun s _ => h s, fun s hs => absurd s.mem_all hs⟩⟩

/-- Members that can all be read give thresholds. -/
lemma exists_assignMembers (h : ∀ (s : Setting) v, ms.get? s.name = some v → s.Reads v)
    (t : Thresholds) : ∃ t', assignMembers ms t Setting.all = .ok t' := by
  by_contra hnone
  obtain ⟨fault, hfault⟩ := Outcome.not_isOk_iff.mp hnone
  obtain ⟨_, s, _, v, -, -, hv, hread⟩ := assignMembers_eq_error_iff.mp hfault
  obtain ⟨n, hn⟩ := h s v hv
  rw [hread] at hn
  cases hn

/-! ## From JSON -/

lemma ofValue_eq_ok_iff :
    ofValue v = .ok t ↔ ∃ ms, SettingObject v ms ∧ assignMembers ms {} Setting.all = .ok t := by
  unfold ofValue SettingObject
  cases v with
  | object ms =>
    simp only [Value.hasMember_iff_members, Value.members, Value.object.injEq]
    cases hinner : Members.get? "thresholds" ms with
    | none =>
      dsimp only [Option.getD_none]
      rw [Outcome.mapError_eq_ok]
      constructor
      · exact fun h => ⟨ms, .inr ⟨rfl, hinner⟩, h⟩
      · rintro ⟨_, (hmember | ⟨rfl, -⟩), h⟩
        · cases hmember
        · exact h
    | some inner =>
      dsimp only [Option.getD_some]
      constructor
      · intro h
        split at h
        · next members => exact ⟨members, .inl rfl, Outcome.mapError_eq_ok.mp h⟩
        · cases h
      · rintro ⟨_, (hmember | ⟨rfl, hmissing⟩), h⟩
        · cases hmember
          exact Outcome.mapError_eq_ok.mpr h
        · rw [hinner] at hmissing
          cases hmissing
  | _ => simp [Value.HasMember]

/-! ## Numbers that are given -/

/-- A number that a setting is given: a short integer for a whole-number setting, a floating-point
number for a limit on ratings, which may also be left at its default. -/
def IsGiven (s : Setting) (n : Number) : Prop :=
  (s.isWhole = true ∧ ∃ k : ℤ, n = .int k ∧ k.natAbs < 10 ^ maxIntegerDigits) ∨
    (s.isWhole = false ∧ ((∃ x, n = .float x) ∨ n = ({} : Thresholds).get s))

/-- Every setting holds a number that it is given. -/
def HoldsGiven (t : Thresholds) : Prop := ∀ s, IsGiven s (t.get s)

lemma lt_of_lt_1000 {k : ℤ} (h : k.natAbs < 10 ^ 3) : k.natAbs < 10 ^ maxIntegerDigits :=
  h.trans_le (Nat.pow_le_pow_right (by decide) (by decide))

lemma holdsGiven_default : HoldsGiven {} := by
  intro s
  cases s
  all_goals
    first
      | exact .inr ⟨rfl, .inr rfl⟩
      | exact .inl ⟨rfl, _, rfl, lt_of_lt_1000 (by decide)⟩

/-- What is read from a value that can stand in a file is given. -/
lemma isGiven_of_read {depth : ℕ} {n : Number} (hv : v.Plain depth) (h : s.read v = .ok n) :
    IsGiven s n := by
  unfold Setting.read at h
  split_ifs at h with hwhole
  · obtain ⟨k, hk, rfl⟩ := Outcome.bind_pure_eq_ok.mp h
    refine .inl ⟨hwhole, k, rfl, ?_⟩
    unfold Setting.readWhole at hk
    split at hk
    · cases hk
      exact hv.natAbs_lt
    · split at hk
      · next hint =>
        cases hk
        exact Binary64.natAbs_toInt?_lt hint
      · cases hk
    · split at hk
      · next hread =>
        cases hk
        exact Numeral.natAbs_readInt_lt hread
      · cases hk
      · cases hk
    · cases hk
  · obtain ⟨x, -, rfl⟩ := Outcome.bind_pure_eq_ok.mp h
    exact .inr ⟨by simpa using hwhole, .inl ⟨x, rfl⟩⟩

/-- One change keeps what is given. -/
lemma HoldsGiven.assign {depth : ℕ} (h : HoldsGiven t) (hv : v.Plain depth)
    (hassign : t.assign s v = .ok t') : HoldsGiven t' := by
  obtain ⟨hread, hkept⟩ := assign_eq_ok_iff.mp hassign
  intro other
  by_cases heq : other = s
  · rw [heq]
    exact isGiven_of_read hv hread
  · rw [hkept other heq]
    exact h other

lemma HoldsGiven.assignMembers {depth : ℕ} {settings : List Setting} (h : HoldsGiven t)
    (hms : ∀ name v, ms.get? name = some v → v.Plain depth)
    (hrow : assignMembers ms t settings = .ok t') : HoldsGiven t' := by
  induction settings generalizing t with
  | nil =>
    cases hrow
    exact h
  | cons s rest ih =>
    unfold Thresholds.assignMembers at hrow
    split at hrow
    · exact ih h hrow
    · next v hv =>
      obtain ⟨after, hassign, hrest⟩ := Outcome.bind_eq_ok.mp hrow
      exact ih (h.assign (hms _ v hv) hassign) hrest

lemma holdsGiven_ofValue {depth : ℕ} (hv : v.Plain (depth + 1)) (h : ofValue v = .ok t) :
    HoldsGiven t := by
  obtain ⟨ms, hms, hrow⟩ := ofValue_eq_ok_iff.mp h
  rcases hms with ⟨outer, rfl, hinner⟩ | ⟨rfl, -⟩
  · have hplain := hv.get? hinner
    cases depth with
    | zero => cases hplain
    | succ depth => exact holdsGiven_default.assignMembers (fun _ _ hv => hplain.get? hv) hrow
  · exact holdsGiven_default.assignMembers (fun _ _ hmember => hv.get? hmember) hrow

/-- The environment gives its numbers as texts. -/
lemma holdsGiven_ofVariables (vars : Variables) : HoldsGiven (ofVariables vars).1 := by
  have hfold : ∀ (settings : List Setting) (state : Thresholds × List Text), HoldsGiven state.1 →
      HoldsGiven (settings.foldl (assignVariable vars) state).1 := by
    intro settings
    induction settings with
    | nil => exact fun _ h => h
    | cons s rest ih =>
      intro state h
      refine ih _ ?_
      unfold assignVariable
      split
      · exact h
      · split
        · next hassign => exact h.assign (.string 0 _) hassign
        · exact h
  exact hfold Setting.all ({}, []) holdsGiven_default

end Thresholds

end StructuredData
