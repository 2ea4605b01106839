import StructuredData.Batch
import StructuredData.Proofs.Json.Joined
import StructuredData.Proofs.Json.Nesting
import StructuredData.Proofs.Json.Plain
import StructuredData.Proofs.Text.Utf8
import StructuredData.Proofs.Thresholds.Reading
import StructuredData.Thresholds.File

/-!
# Files of JSON values

What becomes of a file that holds a batch or thresholds depends on three things: whether it can be
read as text, whether the text can be read as a value, and whether the value has the right shape.
Here are the two contents that are not taken for faults of such a file: text that nests deeper than
it can be read where the file is loaded (`NestsTooDeep`), and a value whose limits on ratings are
too large (`WritesHugeLimit`).
-/

namespace StructuredData

/-- Line ends are the only thing that is rewritten. -/
lemma Text.mem_of_mem_unifyNewlines {t : Text} {c : CodePoint} (h : c ∈ t.unifyNewlines) :
    c ∈ t ∨ c = Text.newline := by
  fun_induction Text.unifyNewlines t with
  | case1 => cases h
  | case2 => exact .inr (List.mem_singleton.mp h)
  | case3 _ _ _ ih =>
    obtain rfl | h := List.mem_cons.mp h
    · exact .inr rfl
    · exact (ih h).imp_left fun h => List.mem_cons_of_mem _ (List.mem_cons_of_mem _ h)
  | case4 _ _ _ _ _ ih =>
    obtain rfl | h := List.mem_cons.mp h
    · exact .inr rfl
    · exact (ih h).imp_left (List.mem_cons_of_mem _)
  | case5 _ _ _ ih =>
    obtain rfl | h := List.mem_cons.mp h
    · exact .inl List.mem_cons_self
    · exact (ih h).imp_left (List.mem_cons_of_mem _)

namespace FileTree

variable {tree : FileTree} {depth : ℕ} {path text : Text} {fault : Json.Fault}

lemma readJson_eq_unparsed_iff :
    tree.readJson depth path = .error (.unparsed text fault) ↔
      tree.readLines path = .ok text ∧ Json.read depth text = .error fault := by
  unfold readJson
  rw [Outcome.bind_eq_error]
  simp only [Outcome.mapError_eq_error, Outcome.mapError_eq_ok]
  constructor
  · rintro (⟨_, -, h⟩ | ⟨source, hsource, reason, hread, h⟩)
    · cases h
    · cases h
      exact ⟨hsource, hread⟩
  · rintro ⟨hsource, hread⟩
    exact .inr ⟨text, hsource, fault, hread, rfl⟩

lemma readJson_eq_ok_iff {v : Value} :
    tree.readJson depth path = .ok v ↔
      ∃ text, tree.readLines path = .ok text ∧ Json.read depth text = .ok v := by
  unfold readJson
  rw [Outcome.bind_eq_ok]
  simp only [Outcome.mapError_eq_ok]

/-- The text of a file holds no half of a surrogate pair. -/
lemma isSurrogate_of_readLines (h : tree.readLines path = .ok text) :
    ∀ c ∈ text, c.isSurrogate = false := by
  obtain ⟨octets, -, hrest⟩ := Outcome.bind_eq_ok.mp h
  obtain ⟨decoded, hdecode, hlines⟩ := Outcome.bind_eq_ok.mp hrest
  cases hlines
  intro c hc
  rcases Text.mem_of_mem_unifyNewlines hc with hc | rfl
  · exact Utf8.isSurrogate_of_decode (Outcome.mapError_eq_ok.mp hdecode) c hc
  · decide

/-- What a file writes is a value that can be read, and joined. -/
lemma plain_and_joined_of_readJson {v : Value} (h : tree.readJson depth path = .ok v) :
    v.Plain depth ∧ v.IsJoined := by
  obtain ⟨text, htext, hread⟩ := readJson_eq_ok_iff.mp h
  exact ⟨Json.plain_of_read hread, Json.isJoined_of_read (isSurrogate_of_readLines htext) hread⟩

/-- The file can be read as text, and the text nests deeper than it can be read. -/
def NestsTooDeep (tree : FileTree) (depth : ℕ) (path : Text) : Prop :=
  ∃ text, tree.readLines path = .ok text ∧ depth < Json.nesting text

/-- The file can be read as a value, and the first setting that cannot be read off it is a limit on
ratings beyond the range of floating-point numbers. -/
def WritesHugeLimit (tree : FileTree) (depth : ℕ) (path : Text) : Prop :=
  ∃ text v, tree.readLines path = .ok text ∧ Json.read depth text = .ok v ∧ Thresholds.Overflows v

lemma readJson_eq_tooDeep_iff :
    (∃ text container, tree.readJson depth path = .error (.unparsed text (.tooDeep container))) ↔
      tree.NestsTooDeep depth path := by
  unfold NestsTooDeep
  simp only [readJson_eq_unparsed_iff, exists_and_left, Json.read_eq_tooDeep_iff]

/-- Where there is a file, there is something. -/
lemma exists?_of_isFile {p : Path} (h : tree.isFile p = true) : tree.exists? p = .ok true := by
  unfold isFile find? at h
  unfold exists?
  cases hplace : tree.resolve p with
  | error kind => simp [hplace] at h
  | ok place =>
    simp only [hplace] at h
    cases hnode : tree.node? place with
    | none => simp [hnode] at h
    | some node => simp [hnode]

end FileTree

/-! ## Batch files -/

namespace Batch

variable {tree : FileTree} {depth : ℕ} {path : Text}

/-- A batch file that is not rejected gives documents, unless it nests too deep. -/
lemma load_eq_tooDeep_iff :
    (∃ container, load depth tree path = .error (.tooDeep container)) ↔
      tree.NestsTooDeep depth path := by
  rw [← FileTree.readJson_eq_tooDeep_iff]
  unfold load
  constructor
  · rintro ⟨container, h⟩
    split at h
    · obtain ⟨_, -, h⟩ := Outcome.mapError_eq_error.mp h
      cases h
    · next text container hjson => exact ⟨text, container, hjson⟩
    · cases h
  · rintro ⟨text, container, hjson⟩
    rw [hjson]
    exact ⟨container, rfl⟩

end Batch

/-! ## Thresholds files -/

namespace Thresholds

variable {tree : FileTree} {depth : ℕ} {path : Text}

/-- The thresholds of a file that is there. -/
lemma load_of_isFile (h : tree.isFile (Path.ofText path) = true) :
    load depth tree path =
      ((tree.readJson depth (Path.ofText path).text).mapError .file >>= fun v =>
        (ofValue v).mapError .shape) := by
  unfold load
  dsimp only
  rw [FileTree.exists?_of_isFile h]
  rfl

lemma load_eq_tooDeep_iff (h : tree.isFile (Path.ofText path) = true) :
    (∃ text container,
        load depth tree path = .error (.file (.unparsed text (.tooDeep container)))) ↔
      tree.NestsTooDeep depth (Path.ofText path).text := by
  rw [← FileTree.readJson_eq_tooDeep_iff, load_of_isFile h]
  simp only [Outcome.bind_eq_error, Outcome.mapError_eq_error]
  constructor
  · rintro ⟨text, container, ⟨_, hjson, hfile⟩ | ⟨_, _, _, -, hshape⟩⟩
    · cases hfile
      exact ⟨text, container, hjson⟩
    · cases hshape
  · rintro ⟨text, container, hjson⟩
    exact ⟨text, container, .inl ⟨_, hjson, rfl⟩⟩

lemma load_eq_tooLarge_iff (h : tree.isFile (Path.ofText path) = true) :
    load depth tree path = .error (.shape (.setting .tooLarge)) ↔
      tree.WritesHugeLimit depth (Path.ofText path).text := by
  rw [load_of_isFile h]
  unfold FileTree.WritesHugeLimit
  simp only [Outcome.bind_eq_error, Outcome.mapError_eq_error, Outcome.mapError_eq_ok,
    FileTree.readJson_eq_ok_iff, ← ofValue_eq_tooLarge_iff]
  constructor
  · rintro (⟨_, -, hfile⟩ | ⟨v, ⟨text, htext, hread⟩, _, hvalue, hshape⟩)
    · cases hfile
    · cases hshape
      exact ⟨text, v, htext, hread, hvalue⟩
  · rintro ⟨text, v, htext, hread, hvalue⟩
    exact .inr ⟨v, ⟨text, htext, hread⟩, _, hvalue, rfl⟩

end Thresholds

end StructuredData
