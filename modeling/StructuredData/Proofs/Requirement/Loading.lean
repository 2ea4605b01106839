import StructuredData.Proofs.Files.Places
import StructuredData.Proofs.Files.Pieces
import StructuredData.Proofs.Requirement.Entries
import StructuredData.Requirement.Reader

/-!
# What becomes of a table file

A file is loaded as a table, or it is rejected; some faults do neither.  `Escapes` says which,
whatever reader of YAML there is: a path that is none, content for which the reader has a fault
other than that it is bad YAML, and a mapping of whose entries the first that is wrong is so for its
key, an integer that is too long to be written.  All files of at most 4096 octets that are no text
escape rejection, with any reader that passes on what keeps a file from being read (`PassesOn`).
-/

namespace StructuredData

namespace FileTree

open StructuredData.Path

variable {tree : FileTree} {place : Place} {names : List Text} {written : Text}

lemma follow_isInPath {kind : FileFaultKind} (h : tree.follow place names = .error kind) :
    kind.isInPath = false := by
  induction names generalizing place with
  | nil => cases h
  | cons name rest ih =>
    unfold follow at h
    split at h
    · cases h
      rfl
    · split_ifs at h
      · cases h
        rfl
      · exact ih h
    · cases h
      rfl

/-- Only a code point that no path can hold makes the path itself the fault. -/
lemma walk_isInPath_iff (tree : FileTree) (names : List Text) :
    (∃ kind, tree.walk written names = .error kind ∧ kind.isInPath = true) ↔
      ∃ c ∈ written, ¬ IsPoint c := by
  by_cases hpoints : ∀ c ∈ written, IsPoint c
  · refine iff_of_false ?_ (by push Not; exact hpoints)
    rintro ⟨kind, h, hkind⟩
    rw [walk_of_points hpoints] at h
    split_ifs at h
    · cases h
      cases hkind
    · exact absurd (follow_isInPath h) (by simp [hkind])
  · exact iff_of_true (walk_of_not_points hpoints names) (by push Not at hpoints; exact hpoints)

lemma readText_isInPath_iff :
    (∃ fault, tree.readText written = .error fault ∧ fault.kind.isInPath = true) ↔
      ∃ c ∈ written, ¬ IsPoint c := by
  have hnaming : ∀ r : Except FileFaultKind Octets,
      (∃ fault, naming written r = .error fault ∧ fault.kind.isInPath = true) ↔
        ∃ kind, r = .error kind ∧ kind.isInPath = true := by
    intro r
    cases r <;> simp [naming, Except.mapError]
  unfold readText
  rw [hnaming]
  cases written with
  | nil =>
    refine iff_of_false ?_ (by simp)
    rintro ⟨kind, ⟨⟩, ⟨⟩⟩
  | cons c rest =>
    rw [if_neg (by simp), ← walk_isInPath_iff tree (Path.steps (c :: rest))]
    refine exists_congr fun kind => and_congr_left fun hkind => ?_
    rw [Outcome.bind_eq_error]
    refine or_iff_left ?_
    rintro ⟨place, -, h⟩
    split at h
    · cases h
      cases hkind
    · split_ifs at h
      cases h
      cases hkind
    · cases h
      cases hkind

lemma read_isInPath_iff (tree : FileTree) {t : Text} :
    (∃ fault, tree.read (Path.ofText t) = .error fault ∧ fault.kind.isInPath = true) ↔
      ∃ c ∈ t, ¬ IsPoint c := by
  unfold read
  rw [readText_isInPath_iff]
  refine exists_congr fun c => and_congr_left fun hc => ?_
  apply Path.mem_text_ofText_iff <;> rintro rfl <;> exact hc (by decide)

end FileTree

namespace RequirementTable

variable {yaml : Yaml.Reader} {tree : FileTree} {path : Option Text} {text source : Text}
  {octets : Octets} {fault : LoadFault}

/-- Loading ends as it should: with a table or a rejection. -/
def IsSettled (result : Except LoadFault RequirementTable) : Prop :=
  (∃ table, result = .ok table) ∨ ∃ rejection, result = .error (.rejected rejection)

/-- The fault is met in the content of a file and is no reason to reject it: one that the reader has
for it and that is not that it is bad YAML, or that of the first wrong entry of a mapping, if what
is wrong with it is that its key is too long. -/
inductive ContentEscapes (yaml : Yaml.Reader) (octets : Octets) : LoadFault → Prop
  | value {fault : Yaml.Fault} (hfault : fault ≠ .malformed)
      (h : yaml octets.pieces = .error fault) : ContentEscapes yaml octets (.value fault)
  | key {done rest : Yaml.Entries} {entry : Yaml.Scalar × Yaml.Data}
      (h : yaml octets.pieces = .ok (.mapping (done ++ entry :: rest)))
      (hdone : ∀ e ∈ done, isTooLong e.1 = false ∧ ∃ r, e.2.WritesRequirement r)
      (hkey : isTooLong entry.1 = true) : ContentEscapes yaml octets .keyTooLong

/-- The fault is met in loading by the path and is no reason to reject the file. -/
inductive Escapes (yaml : Yaml.Reader) (tree : FileTree) : Option Text → LoadFault → Prop
  | path {text : Text} {fault : FileFault} (h : ∃ c ∈ text, ¬ Path.IsPoint c)
      (hread : tree.read (Path.ofText text) = .error fault) :
      Escapes yaml tree (some text) (.path fault)
  | content {text : Text} {octets : Octets} {fault : LoadFault} (hne : text ≠ [])
      (hread : tree.read (Path.ofText text) = .ok octets) (h : ContentEscapes yaml octets fault) :
      Escapes yaml tree (some text) fault

/-- A reader that gets nothing to read but a decoding fault passes on this fault. -/
def PassesOn (yaml : Yaml.Reader) : Prop :=
  ∀ e, yaml ([], some e) = .error (.token (.undecodable e))

/-- Reading the entries of some data stops at a key that is too long if all before it are right. -/
lemma ofData_eq_keyTooLong_iff {data : Yaml.Data} :
    ofData data = .error .keyTooLong ↔
      ∃ done entry rest, data = .mapping (done ++ entry :: rest) ∧
        (∀ e ∈ done, isTooLong e.1 = false ∧ ∃ r, e.2.WritesRequirement r) ∧
        isTooLong entry.1 = true := by
  have hdone : ∀ e, (∃ r, readEntry e = .ok r) ↔
      isTooLong e.1 = false ∧ ∃ r, e.2.WritesRequirement r := by
    intro e
    simp only [readEntry_eq_ok_iff, exists_and_left]
  rw [ofData_eq_error_iff]
  simp only [hdone, readEntry_eq_keyTooLong_iff]
  exact or_iff_right nofun

lemma ofOctets_of_error {fault : Yaml.Fault} (hfault : fault ≠ .malformed)
    (h : yaml octets.pieces = .error fault) :
    ofOctets yaml source octets = .error (.value fault) := by
  unfold ofOctets
  rw [h]
  cases fault with
  | token t =>
    cases t with
    | malformed => exact absurd rfl hfault
    | _ => rfl
  | _ => rfl

lemma ofOctets_of_ok {data : Yaml.Data}
    (h : yaml octets.pieces = .ok data) :
    ofOctets yaml source octets = (ofData data).mapError (.ofShape source) := by
  unfold ofOctets
  rw [h]

lemma contentEscapes_iff :
    ContentEscapes yaml octets fault ↔
      ofOctets yaml source octets = .error fault ∧ ∀ rejection, fault ≠ .rejected rejection := by
  constructor
  · intro h
    cases h with
    | value hfault h => exact ⟨ofOctets_of_error hfault h, by rintro _ ⟨⟩⟩
    | key h hdone hkey =>
      rw [ofOctets_of_ok h, ofData_eq_keyTooLong_iff.mpr ⟨_, _, _, rfl, hdone, hkey⟩]
      exact ⟨rfl, by rintro _ ⟨⟩⟩
  · rintro ⟨h, hrejected⟩
    cases hdata : yaml octets.pieces with
    | error found =>
      by_cases hfound : found = .malformed
      · subst hfound
        unfold ofOctets at h
        rw [hdata] at h
        cases h
        exact absurd rfl (hrejected _)
      · rw [ofOctets_of_error hfound hdata] at h
        cases h
        exact .value hfound hdata
    | ok data =>
      rw [ofOctets_of_ok hdata] at h
      obtain ⟨shape, hshape, rfl⟩ := Outcome.mapError_eq_error.mp h
      cases shape with
      | keyTooLong =>
        obtain ⟨done, entry, rest, rfl, hdone, hkey⟩ := ofData_eq_keyTooLong_iff.mp hshape
        exact .key hdata hdone hkey
      | _ => exact absurd rfl (hrejected _)

/-! ## By path -/

lemma load_of_read (hne : text ≠ []) (hread : tree.read (Path.ofText text) = .ok octets) :
    load yaml tree (some text) = ofOctets yaml (Path.ofText text).text octets := by
  have hpath : sourcePath? (some text) = some (Path.ofText text) := by
    simp [sourcePath?, Option.filter, hne]
  unfold load
  rw [hpath]
  simp only [hread]

lemma load_of_fault (hne : text ≠ []) {fault : FileFault}
    (hread : tree.read (Path.ofText text) = .error fault) :
    load yaml tree (some text) = if fault.kind.isInPath then .error (.path fault)
      else .error (.rejected (.unreadable fault)) := by
  have hpath : sourcePath? (some text) = some (Path.ofText text) := by
    simp [sourcePath?, Option.filter, hne]
  unfold load
  rw [hpath]
  simp only [hread]

lemma escapes_iff :
    Escapes yaml tree path fault ↔
      load yaml tree path = .error fault ∧ ∀ rejection, fault ≠ .rejected rejection := by
  constructor
  · intro h
    cases h with
    | path h hread =>
      obtain ⟨found, hfound, hkind⟩ := (FileTree.read_isInPath_iff tree).mpr h
      obtain rfl : _ = found := Except.error.inj (hread.symm.trans hfound)
      have hne : _ ≠ [] := List.ne_nil_of_mem h.choose_spec.1
      rw [load_of_fault hne hread, if_pos hkind]
      exact ⟨rfl, by rintro _ ⟨⟩⟩
    | content hne hread h =>
      rw [load_of_read hne hread]
      exact contentEscapes_iff.mp h
  · rintro ⟨h, hrejected⟩
    cases path with
    | none => cases h
    | some text =>
      by_cases hne : text = []
      · subst hne
        cases h
      · cases hread : tree.read (Path.ofText text) with
        | ok octets =>
          rw [load_of_read hne hread] at h
          exact .content hne hread (contentEscapes_iff.mpr ⟨h, hrejected⟩)
        | error found =>
          rw [load_of_fault hne hread] at h
          split_ifs at h with hkind
          · cases h
            exact .path ((FileTree.read_isInPath_iff tree).mp ⟨found, hread, hkind⟩) hread
          · cases h
            exact absurd rfl (hrejected _)

/-- Octets that are no text are met before anything that they could be as YAML. -/
lemma contentEscapes_of_undecodable (hyaml : PassesOn yaml)
    (hshort : octets.length ≤ PieceReader.pieceLength) (h : ∀ t, Utf8.decode octets ≠ .ok t) :
    ∃ e, ContentEscapes yaml octets (.value (.token (.undecodable e))) := by
  obtain ⟨e, hpieces⟩ := Octets.pieces_of_undecodable hshort h
  refine ⟨e, .value nofun ?_⟩
  rw [hpieces]
  exact hyaml e

/-- Loading a table ends with a table or a rejection unless a fault escapes, and then it ends with
that fault.  With a reader that passes on what keeps a file from being read, one does whenever the
path leads to a file of at most 4096 octets that is no text. -/
theorem settled_unless_escapes (yaml : Yaml.Reader) (tree : FileTree) (path : Option Text) :
    (IsSettled (load yaml tree path) ↔ ∀ fault, ¬ Escapes yaml tree path fault) ∧
    (∀ fault, Escapes yaml tree path fault → load yaml tree path = .error fault) ∧
    ∀ text octets, PassesOn yaml → path = some text → text ≠ [] →
      tree.read (Path.ofText text) = .ok octets → octets.length ≤ PieceReader.pieceLength →
      (∀ t, Utf8.decode octets ≠ .ok t) →
        ∃ e, Escapes yaml tree path (.value (.token (.undecodable e))) := by
  refine ⟨?_, fun fault h => (escapes_iff.mp h).1, ?_⟩
  · constructor
    · rintro hsettled fault hescapes
      obtain ⟨hload, hrejected⟩ := escapes_iff.mp hescapes
      rcases hsettled with ⟨table, h⟩ | ⟨rejection, h⟩
      · cases hload.symm.trans h
      · exact hrejected rejection (Except.error.inj (hload.symm.trans h))
    · intro hnone
      cases hload : load yaml tree path with
      | ok table => exact .inl ⟨table, rfl⟩
      | error fault =>
        by_contra hunsettled
        refine hnone fault (escapes_iff.mpr ⟨hload, ?_⟩)
        rintro rejection rfl
        exact hunsettled (.inr ⟨rejection, rfl⟩)
  · rintro text octets hyaml rfl hne hread hshort hdecode
    obtain ⟨e, he⟩ := contentEscapes_of_undecodable hyaml hshort hdecode
    exact ⟨e, .content hne hread he⟩

/-- The program's reader passes on what keeps a file from being read. -/
lemma passesOn_yamlReader : PassesOn yamlReader := fun _ => rfl

/-- A file of one octet, which starts a sequence that never goes on. -/
def cutShortTree : FileTree := ⟨[(["rules.yaml"], .file [0xC3])]⟩

theorem cutShort_escapes :
    (∃ e, Escapes yamlReader cutShortTree (some "rules.yaml")
      (.value (.token (.undecodable e)))) ∧
      ¬ IsSettled (load yamlReader cutShortTree (some "rules.yaml")) := by
  have hread : cutShortTree.read (Path.ofText "rules.yaml") = .ok [0xC3] := rfl
  have hdecode : Utf8.decode [0xC3] = .error ⟨0xC3, 0, 1, .unexpectedEnd⟩ := rfl
  obtain ⟨hsettled, -, hescapes⟩ :=
    settled_unless_escapes yamlReader cutShortTree (some "rules.yaml")
  have he := hescapes "rules.yaml" [0xC3] passesOn_yamlReader rfl (List.cons_ne_nil _ _) hread
    (by decide) fun t h => by cases hdecode.symm.trans h
  obtain ⟨e, h⟩ := he
  exact ⟨⟨e, h⟩, fun hsettles => hsettled.mp hsettles _ h⟩

/-- Half of a surrogate pair is the path of nothing, and no rejection says so. -/
example (yaml : Yaml.Reader) : load yaml .empty (some [CodePoint.ofNat 0xD800]) =
    .error (.path ⟨.unencodable ⟨CodePoint.ofNat 0xD800, 0, 1⟩, [CodePoint.ofNat 0xD800]⟩) := rfl

/-- A file of one octet that starts no sequence is neither loaded nor rejected. -/
theorem invalidStart_not_settled :
    load yamlReader ⟨[(["rules.yaml"], .file [0xFF])]⟩ (some "rules.yaml") =
        .error (.value (.token (.undecodable ⟨0xFF, 0, 1, .invalidStart⟩))) ∧
      ¬ IsSettled (load yamlReader ⟨[(["rules.yaml"], .file [0xFF])]⟩ (some "rules.yaml")) := by
  have hload : load yamlReader ⟨[(["rules.yaml"], .file [0xFF])]⟩ (some "rules.yaml") =
      .error (.value (.token (.undecodable ⟨0xFF, 0, 1, .invalidStart⟩))) := rfl
  refine ⟨hload, ?_⟩
  rintro (⟨table, h⟩ | ⟨rejection, h⟩)
  · cases hload.symm.trans h
  · cases hload.symm.trans h

end RequirementTable

end StructuredData
