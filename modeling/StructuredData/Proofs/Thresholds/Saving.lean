import StructuredData.Proofs.Files.WrittenValues
import StructuredData.Proofs.Files.Writing
import StructuredData.Proofs.Number.Order
import StructuredData.Proofs.Thresholds.Settings

/-!
# Saved thresholds are loaded again

Saving and loading change the kind of a number: a limit on ratings at its default is an integer in
the program, is written as one, and is a floating-point number when it has been read.  Otherwise a
setting is read as the number that was written for it (`read_written`), and the value stays the same
in any case.

So what is saved is loaded with equal numbers, and what was loaded once is saved and loaded without
any change, to the last octet of the file (`saved_thresholds_reload`).  No integer stands in the
way: what the environment or a file gives has at most 4300 digits, and these can be written and
read.
-/

namespace StructuredData

namespace Number

variable {a b : Number}

/-- The numbers are equal, or neither of them is a number. -/
def Agrees (a b : Number) : Prop := a.same b = true ∨ a = .float .nan ∧ b = .float .nan

lemma agrees_self (a : Number) : a.Agrees a := by
  by_cases hnan : a = .float .nan
  · exact .inr ⟨hnan, hnan⟩
  · have hplace : ∃ p, a.place? = some p := by
      rcases a with n | _ | (_ | _) | _
      · exact ⟨_, rfl⟩
      · exact absurd rfl hnan
      · exact ⟨_, rfl⟩
      · exact ⟨_, rfl⟩
      · exact ⟨_, rfl⟩
    obtain ⟨p, hp⟩ := hplace
    exact .inl (same_iff.mpr ⟨p, hp, hp⟩)

end Number

namespace Json

/-- Members whose names and values are written alike make objects that are. -/
lemma writeLines_object_congr {level : ℕ} {ms : Members}
    (h : ∀ m ∈ ms, writeString true m.1 = writeString false m.1 ∧
      writeLines true (level + 1) m.2 = writeLines false (level + 1) m.2) :
    writeLines true level (.object ms) = writeLines false level (.object ms) := by
  rw [writeLines, writeLines, writeLinesMembers_eq, writeLinesMembers_eq]
  congr 1
  refine List.map_congr_left fun m hm => ?_
  rw [(h m hm).1, (h m hm).2]

end Json

namespace Thresholds

open FileTree

variable {t t' : Thresholds} {s : Setting} {tree tree' : FileTree} {depth : ℕ} {path : Text}

/-! ## One setting -/

/-- What a setting is given is read off the file that it is written to, and reading it once more
changes nothing. -/
lemma read_written {n : Number} (h : IsGiven s n) :
    ∃ n', s.read (.number n) = .ok n' ∧ n.Agrees n' ∧ (s.isWhole = true → n' = n) ∧
      IsGiven s n' ∧ s.read (.number n') = .ok n' := by
  have hreal : s.isWhole = false → ∀ x, s.read (.number (.float x)) = .ok (.float x) := by
    intro hs x
    simp [Setting.read, hs, Setting.readReal, pure, Except.pure, bind, Except.bind]
  rcases h with ⟨hs, k, rfl, hk⟩ | ⟨hs, (⟨x, rfl⟩ | rfl)⟩
  · have hread : s.read (.number (.int k)) = .ok (.int k) := by
      simp [Setting.read, hs, Setting.readWhole, pure, Except.pure, bind, Except.bind]
    exact ⟨_, hread, Number.agrees_self _, fun _ => rfl, .inl ⟨hs, k, rfl, hk⟩, hread⟩
  · have hread := hreal hs x
    exact ⟨_, hread, Number.agrees_self _, fun _ => rfl, .inr ⟨hs, .inl ⟨x, rfl⟩⟩, hread⟩
  · -- the default of a limit on ratings is an integer, which is read as a floating-point number
    have hdefault : ∃ x, s.read (.number (({} : Thresholds).get s)) = .ok (.float x) ∧
        (({} : Thresholds).get s).Agrees (.float x) := by
      cases s
      all_goals
        first
          | exact absurd hs (by decide)
          | exact ⟨_, rfl, .inl (by decide +kernel)⟩
    obtain ⟨x, hread, hagrees⟩ := hdefault
    exact ⟨_, hread, hagrees, fun hwhole => by simp [hs] at hwhole, .inr ⟨hs, .inl ⟨x, rfl⟩⟩,
      hreal hs x⟩

lemma IsGiven.plain {n : Number} (h : IsGiven s n) : (Value.number n).Plain 0 := by
  rcases h with ⟨-, k, rfl, hk⟩ | ⟨hs, (⟨x, rfl⟩ | rfl)⟩
  · exact .integer 0 hk
  · exact .float 0 x
  · cases s
    all_goals
      first
        | exact absurd hs (by decide)
        | exact .integer 0 (lt_of_lt_1000 (by decide))

/-! ## The value that is written -/

/-- The members that are written for the settings. -/
def writtenMembers (t : Thresholds) : Members :=
  Setting.all.map fun s => (s.name, .number (t.get s))

lemma nodup_writtenMembers (t : Thresholds) : (t.writtenMembers.map Prod.fst).Nodup := by
  unfold writtenMembers
  rw [List.map_map]
  exact Setting.nodup_all.map Setting.name_injective

lemma get?_writtenMembers (t : Thresholds) (s : Setting) :
    t.writtenMembers.get? s.name = some (.number (t.get s)) :=
  (Members.get?_eq_some_iff (nodup_writtenMembers t)).mpr (List.mem_map.mpr ⟨s, s.mem_all, rfl⟩)

lemma plain_toFileValue (h : HoldsGiven t) : t.toFileValue.Plain 2 := by
  have hvalue : t.toValue.Plain 1 := by
    refine .object (nodup_writtenMembers t) fun m hm => ?_
    obtain ⟨s, -, rfl⟩ := List.mem_map.mp hm
    exact (h s).plain
  exact .object (List.nodup_singleton _) (List.forall_mem_singleton.mpr hvalue)

/-- The names of the settings are ASCII, so that nothing has to be escaped. -/
lemma fileText_eq (t : Thresholds) : t.fileText = Json.pretty t.toFileValue := by
  have hnames : ∀ s ∈ Setting.all, ∀ c ∈ s.name, c.val < 0x7F := by decide
  have htitle : ∀ c ∈ Text.ofString "thresholds", c.val < 0x7F := by decide
  refine Json.writeLines_object_congr (List.forall_mem_singleton.mpr ⟨?_, ?_⟩)
  · exact Json.writeString_of_ascii htitle
  · refine Json.writeLines_object_congr fun m hm => ?_
    obtain ⟨s, hs, rfl⟩ := List.mem_map.mp hm
    exact ⟨Json.writeString_of_ascii (hnames s hs), rfl⟩

lemma readJson_saved (h : HoldsGiven t) {p : Path} (hdepth : 2 ≤ depth)
    (hread : tree.readText p.text = .ok (Utf8.octets t.fileText)) :
    tree.readJson depth p.text = .ok t.toFileValue := by
  have hplain := (plain_toFileValue h).mono hdepth
  rw [fileText_eq] at hread
  refine readJson_pretty hplain (fun c hc => ?_) hread
  rw [← fileText_eq] at hc
  have hlayout := Json.isLayout_of_mem_prettyAscii hplain c hc
  unfold Json.IsLayout at hlayout
  simp [CodePoint.isSurrogate]
  omega

/-- Each setting of the second thresholds is read off the number that the first have there. -/
def Rereads (t t' : Thresholds) : Prop :=
  ∀ s : Setting, s.read (.number (t.get s)) = .ok (t'.get s)

/-- The value sets every setting to what is read off the number that is written for it. -/
lemma ofValue_toFileValue_eq_ok_iff : ofValue t.toFileValue = .ok t' ↔ Rereads t t' := by
  have hrow : ofValue t.toFileValue =
      (assignMembers t.writtenMembers {} Setting.all).mapError .setting := rfl
  rw [hrow, Outcome.mapError_eq_ok, assignMembers_eq_ok_iff]
  refine forall_congr' fun s => ?_
  unfold Settles
  rw [get?_writtenMembers]

/-- Every setting of given thresholds is read off the number that it holds. -/
lemma exists_rereads (h : HoldsGiven t) : ∃ t', Rereads t t' := by
  have hreads : ∀ (s : Setting) v, t.writtenMembers.get? s.name = some v → s.Reads v := by
    intro s v hv
    rw [get?_writtenMembers] at hv
    cases hv
    obtain ⟨n, hn, -⟩ := read_written (h s)
    exact ⟨n, hn⟩
  obtain ⟨t', ht'⟩ := exists_assignMembers hreads {}
  exact ⟨t', ofValue_toFileValue_eq_ok_iff.mp (Outcome.mapError_eq_ok.mpr ht')⟩

/-! ## Saving and loading -/

/-- Thresholds that the environment or a file gives. -/
inductive Obtained : Thresholds → Prop
  | ofVariables (vars : Variables) : Obtained (ofVariables vars).1
  | load {depth : ℕ} {tree : FileTree} {path : Text} {t : Thresholds}
      (h : load depth tree path = .ok t) : Obtained t

lemma Obtained.holdsGiven (h : Obtained t) : HoldsGiven t := by
  cases h with
  | ofVariables vars => exact holdsGiven_ofVariables vars
  | load hload =>
    unfold Thresholds.load at hload
    obtain ⟨there, -, hload⟩ := Outcome.bind_eq_ok.mp hload
    split_ifs at hload
    · obtain ⟨v, hv, hvalue⟩ := Outcome.bind_eq_ok.mp hload
      obtain ⟨text, -, hread⟩ := readJson_eq_ok_iff.mp (Outcome.mapError_eq_ok.mp hv)
      have hplain := (Json.plain_of_read hread).mono (Nat.le_succ _)
      exact holdsGiven_ofValue hplain (Outcome.mapError_eq_ok.mp hvalue)
    · cases hload
      exact holdsGiven_default

/-- The file that thresholds are saved to holds their text, and what it gives is what is read for
each setting. -/
lemma exists_saved (h : HoldsGiven t) (hpath : Filing.CanWrite tree (Path.ofText path).text) :
    ∃ tree', (t.save path).on tree = (.ok (), tree') ∧
      tree'.readText (Path.ofText path).text = .ok (Utf8.octets t.fileText) ∧
      ∀ {t'}, Rereads t t' → ∀ depth, 2 ≤ depth → load depth tree' path = .ok t' := by
  obtain ⟨tree', hsave, hfile, htext⟩ :=
    Filing.exists_written (Path.readable_ofText path) hpath (Utf8.octets t.fileText)
  refine ⟨tree', hsave, htext, fun hread depth hdepth => ?_⟩
  rw [load_of_isFile hfile, Outcome.bind_eq_ok]
  exact ⟨t.toFileValue, Outcome.mapError_eq_ok.mpr (readJson_saved h hdepth htext),
    Outcome.mapError_eq_ok.mpr (ofValue_toFileValue_eq_ok_iff.mpr hread)⟩

/-- Thresholds that the environment or a file gives can be saved wherever a file can be written, and
are loaded from there, where a file may nest two levels deep or more, with equal numbers, the whole
ones unchanged.  None of their integers has too
many digits to be written.  What has been loaded once is saved and loaded without any change, the
text of the file included. -/
theorem saved_thresholds_reload (h : Obtained t)
    (hpath : Filing.CanWrite tree (Path.ofText path).text) :
    (∀ s n, t.get s = .int n → Numeral.isTooLong n = false) ∧
    ∃ tree₁ t₁, (t.save path).on tree = (.ok (), tree₁) ∧
      (∀ depth, 2 ≤ depth → load depth tree₁ path = .ok t₁) ∧
      (∀ s, (t.get s).Agrees (t₁.get s) ∧ (s.isWhole = true → t₁.get s = t.get s)) ∧
      ∀ tree' path', Filing.CanWrite tree' (Path.ofText path').text →
        ∃ tree₂, (t₁.save path').on tree' = (.ok (), tree₂) ∧
          (∀ depth, 2 ≤ depth → load depth tree₂ path' = .ok t₁) ∧
          tree₂.readText (Path.ofText path').text = .ok (Utf8.octets t₁.fileText) := by
  have hgiven := h.holdsGiven
  obtain ⟨t₁, hread⟩ := exists_rereads hgiven
  have hall : ∀ s, (t.get s).Agrees (t₁.get s) ∧ (s.isWhole = true → t₁.get s = t.get s) ∧
      IsGiven s (t₁.get s) ∧ s.read (.number (t₁.get s)) = .ok (t₁.get s) := by
    intro s
    obtain ⟨n, hn, hagrees, hwhole, hagain, hstable⟩ := read_written (hgiven s)
    obtain rfl : n = t₁.get s := Except.ok.inj (hn.symm.trans (hread s))
    exact ⟨hagrees, hwhole, hagain, hstable⟩
  refine ⟨fun s n hn => ?_, ?_⟩
  · have hplain := (hgiven s).plain
    rw [hn] at hplain
    exact Numeral.isTooLong_eq_false_iff.mpr hplain.natAbs_lt
  · obtain ⟨tree₁, hsave, -, hload⟩ := exists_saved hgiven hpath
    refine ⟨tree₁, t₁, hsave, hload hread, fun s => ⟨(hall s).1, (hall s).2.1⟩, ?_⟩
    intro tree' path' hpath'
    have hgiven₁ : HoldsGiven t₁ := fun s => (hall s).2.2.1
    obtain ⟨tree₂, hsave₂, htext₂, hload₂⟩ := exists_saved hgiven₁ hpath'
    exact ⟨tree₂, hsave₂, hload₂ fun s => (hall s).2.2.2, htext₂⟩

theorem nanLimit_reload :
    let t := (ofVariables [("SCHEMACHECK_THRESHOLD_RATING_MAX", "nan"),
      ("SCHEMACHECK_THRESHOLD_NAME_MAX_LENGTH", " 8_0 ")]).1
    t.get .ratingMax = .float .nan ∧ t.get .nameMaxLength = .int 80 ∧
    Filing.CanWrite .empty (Path.ofText "saved/limits.json").text ∧
    ∃ tree₁ t₁, (t.save "saved/limits.json").on .empty = (.ok (), tree₁) ∧
      load 900 tree₁ "saved/limits.json" = .ok t₁ ∧
      (t.get .ratingMax).Agrees (t₁.get .ratingMax) ∧ t₁.get .nameMaxLength = .int 80 := by
  have hgiven : ∀ s ∈ [Setting.ratingMax, .nameMaxLength],
      (ofVariables [("SCHEMACHECK_THRESHOLD_RATING_MAX", "nan"),
        ("SCHEMACHECK_THRESHOLD_NAME_MAX_LENGTH", " 8_0 ")]).1.get s =
          if s = .ratingMax then .float .nan else .int 80 := by
    decide +kernel
  have hnan := hgiven .ratingMax (by decide)
  have hname := hgiven .nameMaxLength (by decide)
  have hpath : Filing.CanWrite .empty (Path.ofText "saved/limits.json").text := ⟨[], _, rfl⟩
  obtain ⟨-, tree₁, t₁, hsave, hload, hsame, -⟩ :=
    saved_thresholds_reload (.ofVariables [("SCHEMACHECK_THRESHOLD_RATING_MAX", "nan"),
      ("SCHEMACHECK_THRESHOLD_NAME_MAX_LENGTH", " 8_0 ")]) hpath
  exact ⟨hnan, hname, hpath, tree₁, t₁, hsave, hload 900 (by decide), (hsame .ratingMax).1,
    ((hsame .nameMaxLength).2 rfl).trans hname⟩

end Thresholds

end StructuredData
