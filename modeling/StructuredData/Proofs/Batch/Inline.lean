import StructuredData.Proofs.Batch.Items
import StructuredData.Proofs.Files.JsonFiles
import StructuredData.Proofs.Json.Depth
import StructuredData.Proofs.Json.RoundTrip
import StructuredData.Proofs.Page.Texts

/-!
# Schemas as text and as values

The schema of an item of a batch file is text or a value of its own.  A value is written as text,
and the text is read again wherever the document is looked at.  As what a file holds is read back as
it is written (`read_schemaText`), it makes no difference in which way, and by which text, a file
hands in a document, as long as the text can be read there (`load_inline`).
-/

namespace StructuredData

namespace Batch

variable {item item' schema : Value} {items items' : List Value} {s : Submission}
  {ss : List Submission} {tree : FileTree} {depth : ℕ} {path : Text}

/-- The document is that of the item: it is declared by the label of the type, and its text is the
schema, or if the schema is no text, one that is read as the schema wherever a value that nests as
deep can be read. -/
structure IsDocumentOf (item : Value) (s : Submission) : Prop where
  label : ∀ label, item.HasMember "type" label → s.label = .string label.spelled
  verbatim : ∀ t, item.HasMember "schema" (.string t) → s.schema = .string t
  written : ∀ v, item.HasMember "schema" v → v.text? = none →
    ∀ depth, v.Plain depth → s.parsed? depth = some v

/-- The second item is the first, or it has some text that writes the schema, nested at most so
deep, in place of a schema that is no text. -/
inductive Restates (depth : ℕ) : Value → Value → Prop
  | same (item : Value) : Restates depth item item
  | inline {ms : Members} {v : Value} {t : Text} (hschema : ms.get? "schema" = some v)
      (hv : v.text? = none) (hread : Json.read depth t = .ok v) :
      Restates depth (.object ms) (.object (ms.put "schema" (.string t)))

/-! ## The documents of a file -/

/-- What is written for the schema of an item of a file is read as this schema. -/
lemma read_schemaText (hfile : tree.readJson depth path = .ok (.array items)) (hitem : item ∈ items)
    (hschema : item.HasMember "schema" schema) (hinline : schema.text? = none) {enough : ℕ}
    (hplain : schema.Plain enough) : Json.read enough (schemaText schema) = .ok schema := by
  obtain ⟨-, hjoined⟩ := FileTree.plain_and_joined_of_readJson hfile
  obtain ⟨ms, rfl, hget⟩ := hschema
  have hms := (hjoined.items _ hitem).members _ (Members.mem_of_get? hget)
  have htext : schemaText schema = Json.compactAscii schema := by
    cases schema with
    | string => cases hinline
    | _ => rfl
  rw [htext]
  exact Json.read_compactAscii hplain hms.2

lemma isDocumentOf (hfile : tree.readJson depth path = .ok (.array items)) (hitem : item ∈ items)
    (hs : document? item = some s) : IsDocumentOf item s := by
  obtain ⟨label, schema, hlabel, hschema, rfl⟩ := document?_eq_some_iff.mp hs
  refine ⟨fun other hother => ?_, fun t ht => ?_, fun v hv hinline enough hplain => ?_⟩
  · rw [hlabel.unique hother]
    rfl
  · rw [hschema.unique ht]
    rfl
  · rw [hschema.unique hv]
    simp [Submission.parsed?, Submission.ofTexts, Value.text?, Json.read?,
      read_schemaText hfile hitem hv hinline hplain, Except.toOption]

/-- An item that is restated gives a document that says the same. -/
lemma Restates.exists_saysSame (h : Restates depth item item') (hs : document? item = some s)
    (hdocument : IsDocumentOf item s) :
    ∃ s', document? item' = some s' ∧ Submission.SaysSame depth s s' := by
  cases h with
  | same => exact ⟨s, hs, rfl, fun _ _ => rfl⟩
  | @inline ms v t hget hv hread =>
    obtain ⟨label, -, hmember, -, -⟩ := document?_eq_some_iff.mp hs
    have hlabel : ms.get? "type" = some label := Value.hasMember_iff_members.mp hmember
    have hne : ("type" : Text) ≠ "schema" := by decide
    refine ⟨Submission.ofTexts label.spelled t, ?_, ?_, fun more hmore => ?_⟩
    · exact document?_eq_some_iff.mpr ⟨label, .string t,
        ⟨_, rfl, (Members.get?_put_of_ne hne _ _).trans hlabel⟩,
        ⟨_, rfl, Members.get?_put_self _ _ _⟩, rfl⟩
    · exact (hdocument.label label hmember).symm
    · have hplain := (Json.plain_of_read hread).mono hmore
      rw [hdocument.written v ⟨ms, rfl, hget⟩ hv more hplain]
      simp [Submission.parsed?, Submission.ofTexts, Value.text?, Json.read?,
        Json.read_eq_ok_of_le hmore hread, Except.toOption]

/-- Items that are restated give documents that say the same, one by one. -/
lemma exists_documents_of_restates (hitems : List.Forall₂ (Restates depth) items items')
    (hss : List.Forall₂ (fun item s => document? item = some s ∧ IsDocumentOf item s) items ss) :
    ∃ ss', (∀ path, documents path (.array items') = .ok ss') ∧
      List.Forall₂ (Submission.SaysSame depth) ss ss' := by
  simp only [documents_eq_ok_iff, forall_const]
  induction hitems generalizing ss with
  | nil =>
    cases hss
    exact ⟨[], .nil, .nil⟩
  | cons hitem _ ih =>
    obtain ⟨s, later, ⟨hs, hdocument⟩, hlater, rfl⟩ := List.forall₂_cons_left_iff.mp hss
    obtain ⟨s', hs', hsame⟩ := hitem.exists_saysSame hs hdocument
    obtain ⟨ss', hss', hsames⟩ := ih hlater
    exact ⟨s' :: ss', .cons hs' hss', .cons hsame hsames⟩

/-- A batch file that holds a list is rejected for the first item that does not have the shape, and
otherwise gives one document for each item, in their order.  Whichever items with a schema that is
no text carry text that writes it instead, every validator that reads documents as deep as these
texts nest finds the same in each document, and reports the same on the page, or fails with the same
fault. -/
theorem load_inline (hfile : tree.readJson depth path = .ok (.array items)) :
    (∀ done item rest, items = done ++ item :: rest → (∀ x ∈ done, IsItem x) → ¬ IsItem item →
      load depth tree path = .error (.rejected (.badItem done.length path))) ∧
    ((∀ item ∈ items, IsItem item) → ∃ ss, load depth tree path = .ok ss ∧
      List.Forall₂ IsDocumentOf items ss ∧
      ∀ enough items', List.Forall₂ (Restates enough) items items' → ∃ ss',
        documents path (.array items') = .ok ss' ∧
        List.Forall₂ (fun s s' => ∀ (v : Validator) (depth : ℕ), enough ≤ depth →
          v.validate depth s' = v.validate depth s) ss ss' ∧
        ∀ (v : Validator) (depths : Depths) (workers : Option ℤ),
          enough ≤ Validator.depthAtWork depths workers ss → enough ≤ depths.page →
          Outcome.Alike PageReport.SameButTexts (v.validatePage depths workers ss)
            (v.validatePage depths workers ss')) := by
  rw [load_of_readJson hfile]
  constructor
  · rintro done item rest rfl hdone hitem
    have hfirst : documentsFrom 0 (done ++ item :: rest) = .error (0 + done.length) :=
      documentsFrom_of_not_isItem hdone hitem 0
    rw [documents, hfirst, Nat.zero_add]
    rfl
  · intro hshape
    obtain ⟨ss, hss⟩ : ∃ ss, documents path (.array items) = .ok ss := exists_documents hshape
    have hdocuments : List.Forall₂ (fun item s => document? item = some s ∧ IsDocumentOf item s)
        items ss := by
      have hmem := (List.forall₂_and_left items ss).mpr
        ⟨fun item hitem => hitem, documents_eq_ok_iff.mp hss⟩
      exact hmem.imp fun item s h => ⟨h.2, isDocumentOf hfile h.1 h.2⟩
    refine ⟨ss, Outcome.mapError_eq_ok.mpr hss, hdocuments.imp fun _ _ h => h.2, ?_⟩
    intro enough items' hitems
    obtain ⟨ss', hss', hsame⟩ := exists_documents_of_restates hitems hdocuments
    refine ⟨ss', hss' path, hsame.imp fun _ _ h v depth => ?_, ?_⟩
    · exact fun (hdepth : enough ≤ depth) => h.validate v hdepth
    · exact fun v _ _ hwork hpage => Submission.SaysSame.validatePage_alike hsame v hwork hpage

/-- An object of a type and a schema. -/
def itemOf (label schema : Value) : Value := .object [("type", label), ("schema", schema)]

/-- A person. -/
def ada : Value := .object [("name", .string "Ada")]

lemma plain_ada : ada.Plain 1 :=
  .object (List.nodup_singleton ("name" : Text)) (List.forall_mem_singleton.mpr (.string 0 _))

/-- An item with a schema of its own, and one with text. -/
def inlineItems : List Value :=
  [itemOf (.string "Person") ada, itemOf .null (.string "\x7b\x7d")]

/-- A file of the two items, and one in which `null` comes after them. -/
def inlineFiles : FileTree :=
  ⟨[(["page.json"], .file (Utf8.octets (Json.compactAscii (.array inlineItems)))),
    (["broken.json"], .file (Utf8.octets (Json.compactAscii (.array (inlineItems ++ [.null])))))]⟩

lemma readJson_inlineFiles :
    inlineFiles.readJson 900 "page.json" = .ok (.array inlineItems) ∧
      inlineFiles.readJson 900 "broken.json" = .ok (.array (inlineItems ++ [.null])) := by
  have hitem : ∀ label schema : Value, label.Plain 1 ∧ label.IsJoined →
      schema.Plain 1 ∧ schema.IsJoined →
      (itemOf label schema).Plain 2 ∧ (itemOf label schema).IsJoined := by
    rintro label schema ⟨hlabel, hlabel'⟩ ⟨hschema, hschema'⟩
    have hnames : [("type" : Text), "schema"].Nodup := by decide
    have htype : ("type" : Text).IsJoined := by decide
    have hname : ("schema" : Text).IsJoined := by decide
    constructor
    · exact .object hnames
        (List.forall_mem_cons.mpr ⟨hlabel, List.forall_mem_singleton.mpr hschema⟩)
    · exact .object (List.forall_mem_cons.mpr ⟨htype, List.forall_mem_singleton.mpr hname⟩)
        (List.forall_mem_cons.mpr ⟨hlabel', List.forall_mem_singleton.mpr hschema'⟩)
  have hstring : ∀ t : Text, t.IsJoined → (Value.string t).Plain 1 ∧ (Value.string t).IsJoined :=
    fun t ht => ⟨.string 1 t, .string ht⟩
  have hada : ada.IsJoined :=
    .object (List.forall_mem_singleton.mpr (by decide))
      (List.forall_mem_singleton.mpr (.string (by decide)))
  have hitems : ∀ item ∈ inlineItems ++ [.null], item.Plain 2 ∧ item.IsJoined :=
    List.forall_mem_cons.mpr ⟨hitem _ _ (hstring _ (by decide)) ⟨plain_ada, hada⟩,
      List.forall_mem_cons.mpr ⟨hitem _ _ ⟨.null 1, .null⟩ (hstring _ (by decide)),
        List.forall_mem_singleton.mpr ⟨.null 2, .null⟩⟩⟩
  have hread : ∀ items : List Value, (∀ item ∈ items, item ∈ inlineItems ++ [.null]) →
      Json.read 900 (Json.compactAscii (.array items)) = .ok (.array items) := fun items hmem =>
    Json.read_compactAscii
      ((Value.Plain.array fun item h => (hitems item (hmem item h)).1).mono (by decide))
      (.array fun item h => (hitems item (hmem item h)).2)
  have hpage : (inlineFiles.readLines "page.json").toOption =
      some (Json.compactAscii (.array inlineItems)) := by decide +kernel
  have hbroken : (inlineFiles.readLines "broken.json").toOption =
      some (Json.compactAscii (.array (inlineItems ++ [.null]))) := by decide +kernel
  exact ⟨FileTree.readJson_eq_ok_iff.mpr ⟨_, Outcome.eq_ok_of_toOption hpage,
      hread _ fun item => List.mem_append_left _⟩,
    FileTree.readJson_eq_ok_iff.mpr ⟨_, Outcome.eq_ok_of_toOption hbroken,
      hread _ fun item h => h⟩⟩

theorem inlineFiles_loaded :
    (∃ ss ss', load 900 inlineFiles "page.json" = .ok ss ∧
      List.Forall₂ IsDocumentOf inlineItems ss ∧
      documents "page.json" (.array [itemOf (.string "Person") (.string (Json.pretty ada)),
        itemOf .null (.string "\x7b\x7d")]) = .ok ss' ∧
      List.Forall₂ (fun s s' => ∀ (v : Validator) (depth : ℕ), 1 ≤ depth →
        v.validate depth s' = v.validate depth s) ss ss') ∧
    load 900 inlineFiles "broken.json" = .error (.rejected (.badItem 2 "broken.json")) := by
  obtain ⟨hpage, hbroken⟩ := readJson_inlineFiles
  have hshape : ∀ item ∈ inlineItems, IsItem item := by
    refine List.forall_mem_cons.mpr ⟨?_, List.forall_mem_singleton.mpr ?_⟩
    all_goals exact ⟨⟨_, _, rfl, rfl⟩, _, _, rfl, rfl⟩
  have hnull : ¬ IsItem .null := by
    rintro ⟨⟨_, _, h, -⟩, -⟩
    cases h
  have hrestated : List.Forall₂ (Restates 1) inlineItems
      [itemOf (.string "Person") (.string (Json.pretty ada)), itemOf .null (.string "\x7b\x7d")] :=
    .cons (.inline rfl rfl (Json.read_pretty plain_ada)) (.cons (.same _) .nil)
  obtain ⟨ss, hss, hdocuments, hsame⟩ := (load_inline hpage).2 hshape
  obtain ⟨ss', hss', hvalidate, -⟩ := hsame _ _ hrestated
  exact ⟨⟨ss, ss', hss, hdocuments, hss', hvalidate⟩,
    (load_inline hbroken).1 inlineItems .null [] rfl hshape hnull⟩

end Batch

end StructuredData
