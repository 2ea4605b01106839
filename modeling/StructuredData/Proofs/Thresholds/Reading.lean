import StructuredData.Proofs.Json.Member
import StructuredData.Proofs.Number.Overflow
import StructuredData.Proofs.Outcome
import StructuredData.Thresholds.Reading

/-!
# The fault of a row of settings

Settings are read in their order, and the first that cannot be read decides about the fault
(`assignMembers_eq_error_iff`).  Whether a value can be read for a setting does not depend on the
settings that were changed before.

One fault stands apart, that of a limit on ratings which is an integer beyond the range of
floating-point numbers.  `ofValue_eq_tooLarge_iff` says for which JSON values it is the one that is
found.
-/

namespace StructuredData

namespace Setting

/-- The number that a value gives for a setting. -/
def read (s : Setting) (v : Value) : Except SettingFault Number :=
  if s.isWhole then return .int (← s.readWhole v) else return .float (← s.readReal v)

/-- A value gives a number for a setting. -/
def Reads (s : Setting) (v : Value) : Prop := ∃ n, s.read v = .ok n

variable {s : Setting} {v : Value}

lemma readWhole_ne_tooLarge : s.readWhole v ≠ .error .tooLarge := by
  unfold readWhole
  split
  · simp
  · split <;> simp
  · split <;> simp
  · simp

lemma readReal_eq_tooLarge_iff :
    s.readReal v = .error .tooLarge ↔
      ∃ n, v = .number (.int n) ∧ Binary64.overflowBound ≤ n.natAbs := by
  unfold readReal
  split
  · next n =>
    simp only [Value.number.injEq, Number.int.injEq, exists_eq_left',
      ← Binary64.not_isFinite_ofInt_iff]
    split_ifs with h <;> simp [h]
  · simp
  · split <;> simp
  · simp_all

/-- Only a limit on ratings can be too large. -/
lemma read_eq_tooLarge_iff :
    s.read v = .error .tooLarge ↔
      s.isWhole = false ∧ ∃ n, v = .number (.int n) ∧ Binary64.overflowBound ≤ n.natAbs := by
  unfold read
  split_ifs with hwhole
  · rw [Outcome.bind_pure_eq_error]
    simp [hwhole, readWhole_ne_tooLarge]
  · rw [Outcome.bind_pure_eq_error, readReal_eq_tooLarge_iff]
    simp [hwhole]

end Setting

namespace Thresholds

variable {t : Thresholds} {s : Setting} {v : Value} {fault : SettingFault}

/-! ## One setting after another -/

lemma assign_eq_error_iff : t.assign s v = .error fault ↔ s.read v = .error fault := by
  unfold assign Setting.read
  split_ifs <;> simp only [Outcome.bind_pure_eq_error]

lemma assign_isOk_iff : (∃ t', t.assign s v = .ok t') ↔ s.Reads v := by
  unfold assign Setting.Reads Setting.read
  split_ifs
  · cases s.readWhole v <;> simp
  · cases s.readReal v <;> simp

/-- The members in front of a setting can be read, as far as there are any. -/
def ReadsAll (ms : Members) (settings : List Setting) : Prop :=
  ∀ s ∈ settings, ∀ v, ms.get? s.name = some v → s.Reads v

/-- Changing settings in turn ends with the fault of the first that cannot be read. -/
lemma assignMembers_eq_error_iff {ms : Members} {settings : List Setting} :
    assignMembers ms t settings = .error fault ↔
      ∃ before s after v, settings = before ++ s :: after ∧ ReadsAll ms before ∧
        ms.get? s.name = some v ∧ s.read v = .error fault := by
  induction settings generalizing t with
  | nil => simp [assignMembers]
  | cons s rest ih =>
    unfold assignMembers
    constructor
    · intro h
      split at h
      · next hnone =>
        obtain ⟨before, s', after, v, rfl, hbefore, hv, hread⟩ := ih.mp h
        refine ⟨s :: before, s', after, v, rfl, ?_, hv, hread⟩
        intro s'' hs'' w hw
        rcases List.mem_cons.mp hs'' with rfl | hs''
        · rw [hnone] at hw
          cases hw
        · exact hbefore s'' hs'' w hw
      · next v hv =>
        obtain hfault | ⟨t', ht', hrest⟩ := Outcome.bind_eq_error.mp h
        · exact ⟨[], s, rest, v, rfl, by simp [ReadsAll], hv, assign_eq_error_iff.mp hfault⟩
        · obtain ⟨before, s', after, w, rfl, hbefore, hw, hread⟩ := ih.mp hrest
          refine ⟨s :: before, s', after, w, rfl, ?_, hw, hread⟩
          intro s'' hs'' u hu
          rcases List.mem_cons.mp hs'' with rfl | hs''
          · rw [hv] at hu
            cases hu
            exact assign_isOk_iff.mp ⟨t', ht'⟩
          · exact hbefore s'' hs'' u hu
    · rintro ⟨before, s', after, v, hsplit, hbefore, hv, hread⟩
      cases before with
      | nil =>
        obtain ⟨rfl, rfl⟩ := List.cons.inj hsplit
        rw [hv]
        exact Outcome.bind_eq_error.mpr (.inl (assign_eq_error_iff.mpr hread))
      | cons s'' before =>
        obtain ⟨rfl, rfl⟩ := List.cons.inj hsplit
        have htail {t' : Thresholds} :
            assignMembers ms t' (before ++ s' :: after) = .error fault :=
          ih.mpr ⟨before, s', after, v, rfl, fun s hs => hbefore s (by simp [hs]), hv, hread⟩
        split
        · exact htail
        · next w hw =>
          obtain ⟨t', ht'⟩ := assign_isOk_iff.mpr (hbefore s (by simp) w hw)
          exact Outcome.bind_eq_error.mpr (.inr ⟨t', ht', htail⟩)

/-! ## From JSON -/

/-- The object whose members set the thresholds: that under `thresholds` where there is such a
member, and the value itself otherwise. -/
def SettingObject (v : Value) (ms : Members) : Prop :=
  v.HasMember "thresholds" (.object ms) ∨ v = .object ms ∧ ms.get? "thresholds" = none

/-- The first setting that cannot be read off the value is a limit on ratings, and it is an integer
beyond the range of floating-point numbers. -/
def Overflows (v : Value) : Prop :=
  ∃ ms before s after n, SettingObject v ms ∧ Setting.all = before ++ s :: after ∧
    ReadsAll ms before ∧ s.isWhole = false ∧ ms.get? s.name = some (.number (.int n)) ∧
    Binary64.overflowBound ≤ n.natAbs

lemma ofValue_eq_setting_iff {v : Value} :
    ofValue v = .error (.setting fault) ↔
      ∃ ms, SettingObject v ms ∧ assignMembers ms {} Setting.all = .error fault := by
  unfold ofValue SettingObject
  cases v with
  | object ms =>
    simp only [Value.hasMember_iff_members, Value.members, Value.object.injEq]
    have hself : ∀ ms', ms = ms' ∧ Members.get? "thresholds" ms' = none ↔
        ms = ms' ∧ Members.get? "thresholds" ms = none := by
      intro ms'
      exact and_congr_right fun h => by rw [h]
    simp only [hself]
    cases Members.get? "thresholds" ms with
    | none => simp [Outcome.mapError_eq_error]
    | some inner => cases inner <;> simp [Outcome.mapError_eq_error]
  | _ => simp [Value.HasMember]

theorem ofValue_eq_tooLarge_iff {v : Value} :
    ofValue v = .error (.setting .tooLarge) ↔ Overflows v := by
  rw [ofValue_eq_setting_iff]
  unfold Overflows
  simp only [assignMembers_eq_error_iff, Setting.read_eq_tooLarge_iff]
  constructor
  · rintro ⟨ms, hms, before, s, after, _, hall, hbefore, hv, hreal, n, rfl, hle⟩
    exact ⟨ms, before, s, after, n, hms, hall, hbefore, hreal, hv, hle⟩
  · rintro ⟨ms, before, s, after, n, hms, hall, hbefore, hreal, hv, hle⟩
    exact ⟨ms, hms, before, s, after, _, hall, hbefore, hv, hreal, n, rfl, hle⟩

end Thresholds

end StructuredData
