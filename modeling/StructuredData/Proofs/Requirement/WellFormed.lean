import StructuredData.Proofs.Json.Member
import StructuredData.Proofs.Json.Plain
import StructuredData.Proofs.Requirement.Entries
import StructuredData.Requirement.File

/-!
# Which JSON values are requirement tables

A table is written as an object of objects, in each of which `required` and `recommended`, as far as
they are there, list texts.  `Value.WritesTable` says so without reference to the reader, and which
table is written; `TableComplaint` says which message a value deserves that is no table: about the
value as a whole, or about its first member that writes no requirement, and there about the first
part that is wrong.  `ofValue_decides` says that the reader gives exactly these tables and
these messages, and nothing else.
-/

namespace StructuredData

/-! ## What is written -/

namespace Value

/-- The member of that name lists the texts; if there is no such member, there are no texts. -/
def ListsNames (v : Value) (name : Text) (ts : List Text) : Prop :=
  v.HasMember name (.array (ts.map .string)) ∨ (ts = [] ∧ ∀ w, ¬ v.HasMember name w)

/-- The value is an object that lists the properties of the requirement; what else it holds does not
matter. -/
structure WritesRequirement (v : Value) (r : Requirement) : Prop where
  isObject : v.isObject = true
  required : v.ListsNames "required" r.required
  recommended : v.ListsNames "recommended" r.recommended

/-- The value is an object with at least one member, and the table has an entry for each of its
members, in order: the requirement that the member writes, under the member's name. -/
def WritesTable (v : Value) (table : RequirementTable) : Prop :=
  ∃ ms, v = .object ms ∧ ms ≠ [] ∧
    List.Forall₂ (fun m entry => entry.1 = m.1 ∧ m.2.WritesRequirement entry.2) ms table

end Value

/-! ## What is complained of -/

/-- The message that a value deserves which is to write the requirement of a type and writes none:
it is no object, or else its required properties are not listed, or else its recommended ones. -/
inductive EntryComplaint (source type : Text) (v : Value) : Text → Prop
  | shape (h : v.isObject = false) :
      EntryComplaint source type v
        ("Entry for " ++ type.quoted ++ " in " ++ source ++ " must be a mapping")
  | required (h : v.isObject = true) (hrequired : ∀ ts, ¬ v.ListsNames "required" ts) :
      EntryComplaint source type v
        (type ++ "." ++ "required" ++ " in " ++ source ++ " must be a list of property names")
  | recommended (h : v.isObject = true) (hrequired : ∃ ts, v.ListsNames "required" ts)
      (hrecommended : ∀ ts, ¬ v.ListsNames "recommended" ts) :
      EntryComplaint source type v
        (type ++ "." ++ "recommended" ++ " in " ++ source ++
          " must be a list of property names")

/-- The message that a value deserves which is to write a table and writes none: it has no members,
or else its first member that writes no requirement is complained of. -/
inductive TableComplaint (source : Text) (v : Value) : Text → Prop
  | shape (h : ∀ m ms, v ≠ .object (m :: ms)) :
      TableComplaint source v ("Requirement table " ++ source ++ " must be a non-empty mapping")
  | entry {done rest : Members} {type message : Text} {w : Value}
      (h : v = .object (done ++ (type, w) :: rest))
      (hdone : ∀ m ∈ done, ∃ r, m.2.WritesRequirement r)
      (hentry : EntryComplaint source type w message) : TableComplaint source v message

/-! ## Lists of names -/

namespace Yaml

lemma Data.ofMembers_eq_map (ms : Members) :
    Data.ofMembers ms = ms.map fun m => (Scalar.string m.1, Data.ofValue m.2) := by
  induction ms with
  | nil => rfl
  | cons m rest ih => rw [Data.ofMembers, ih, List.map_cons]

/-- A member is found in the data of an object as it is found in the object. -/
lemma Entries.get?_ofMembers (name : Text) (ms : Members) :
    Entries.get? name (Data.ofMembers ms) = (ms.get? name).map Data.ofValue := by
  induction ms with
  | nil => rfl
  | cons m rest ih =>
    unfold Entries.get? at ih
    unfold Entries.get? Members.get?
    rw [Data.ofMembers, List.find?_cons]
    by_cases hm : m.1 = name
    · simp [hm]
    · simpa [hm] using ih

end Yaml

namespace RequirementTable

open Yaml (Data Entries)

variable {source type message name : Text} {v : Value} {ms : Members} {r : Requirement}
  {ts : List Text} {table : RequirementTable}

lemma ofValues_eq_map_string_iff {vs : List Value} :
    (Data.ofValues vs = ts.map fun t => .scalar (.string t)) ↔ vs = ts.map .string := by
  induction vs generalizing ts with
  | nil => cases ts <;> simp [Data.ofValues]
  | cons v rest ih =>
    cases ts with
    | nil => simp [Data.ofValues]
    | cons t us => cases v <;> simp [Data.ofValues, Data.ofValue, ih]

lemma listsNames_ofMembers_iff :
    Entries.ListsNames (Data.ofMembers ms) name ts ↔ (Value.object ms).ListsNames name ts := by
  unfold Yaml.Entries.ListsNames Value.ListsNames
  simp only [Yaml.Entries.get?_ofMembers, Value.hasMember_iff_members, Value.members]
  cases ms.get? name with
  | none => simp
  | some w =>
    cases w with
    | array vs => simp [Data.ofValue, ofValues_eq_map_string_iff]
    | _ => simp [Data.ofValue]

/-! ## One member -/

lemma writesRequirement_ofValue_iff :
    (Data.ofValue v).WritesRequirement r ↔ v.WritesRequirement r := by
  constructor
  · rintro ⟨parts, hparts, hrequired, hrecommended⟩
    cases v with
    | object ms =>
      obtain rfl := Data.mapping.inj hparts
      exact ⟨rfl, listsNames_ofMembers_iff.mp hrequired, listsNames_ofMembers_iff.mp hrecommended⟩
    | _ => cases hparts
  · rintro ⟨hobject, hrequired, hrecommended⟩
    cases v with
    | object ms =>
      exact ⟨_, rfl, listsNames_ofMembers_iff.mpr hrequired,
        listsNames_ofMembers_iff.mpr hrecommended⟩
    | _ => cases hobject

/-- No text is a name that is too long. -/
lemma readEntry_string_eq_ok_iff :
    readEntry (.string type, Data.ofValue v) = .ok r ↔ v.WritesRequirement r := by
  rw [readEntry_eq_ok_iff, writesRequirement_ofValue_iff]
  exact and_iff_right rfl

/-- The fault of a member that writes no requirement has the message that the member deserves. -/
lemma exists_readEntry_eq_error_iff :
    (∃ fault, readEntry (.string type, Data.ofValue v) = .error fault ∧
      fault.message source = message) ↔ EntryComplaint source type v message := by
  by_cases hv : ∃ ms, v = .object ms
  · obtain ⟨ms, rfl⟩ := hv
    have hread : readEntry (.string type, Data.ofValue (.object ms)) =
        readRequirement (.string type) (Data.ofMembers ms) := rfl
    simp only [hread, readRequirement_eq_error_iff, listsNames_ofMembers_iff]
    constructor
    · rintro ⟨fault, ⟨hrequired, rfl⟩ | ⟨hrequired, hrecommended, rfl⟩, rfl⟩
      · exact .required rfl hrequired
      · exact .recommended rfl hrequired hrecommended
    · intro h
      cases h with
      | shape h => cases h
      | required _ hrequired => exact ⟨_, .inl ⟨hrequired, rfl⟩, rfl⟩
      | recommended _ hrequired hrecommended =>
        exact ⟨_, .inr ⟨hrequired, hrecommended, rfl⟩, rfl⟩
  · have hobject : v.isObject = false := by
      cases v with
      | object ms => exact absurd ⟨ms, rfl⟩ hv
      | _ => rfl
    have hread : readEntry (.string type, Data.ofValue v) =
        .error (.entryNotMapping (.string type)) := by
      cases v with
      | object ms => exact absurd ⟨ms, rfl⟩ hv
      | _ => rfl
    rw [hread]
    constructor
    · rintro ⟨fault, h, rfl⟩
      cases h
      exact .shape hobject
    · intro h
      cases h with
      | shape => exact ⟨_, rfl, rfl⟩
      | required h => exact absurd h (by simp [hobject])
      | recommended h => exact absurd h (by simp [hobject])

/-! ## The table -/

/-- Rows of names and results are results that stand beside their names. -/
lemma exists_zip_iff {α : Type} {R : Text × Value → α → Prop} {rows : List (Text × α)} :
    (∃ rs, List.Forall₂ R ms rs ∧ rows = (ms.map Prod.fst).zip rs) ↔
      List.Forall₂ (fun m row => row.1 = m.1 ∧ R m row.2) ms rows := by
  induction ms generalizing rows with
  | nil => simp
  | cons m rest ih =>
    rw [List.forall₂_cons_left_iff]
    constructor
    · rintro ⟨rs, hrs, rfl⟩
      obtain ⟨r, rs, hr, hrest, rfl⟩ := List.forall₂_cons_left_iff.mp hrs
      exact ⟨(m.1, r), _, ⟨rfl, hr⟩, ih.mp ⟨rs, hrest, rfl⟩, rfl⟩
    · rintro ⟨row, rows, ⟨hname, hr⟩, hrest, rfl⟩
      obtain ⟨rs, hrs, rfl⟩ := ih.mpr hrest
      exact ⟨row.2 :: rs, .cons hr hrs, by simp [← hname]⟩

lemma named_ofMembers (ms : Members) (rs : List Requirement) :
    named (Data.ofMembers ms) rs = (ms.map Prod.fst).zip rs := by
  unfold named
  rw [Data.ofMembers_eq_map, List.map_map]
  rfl

/-- Where names are distinct, an object is read into a row for each of its members. -/
lemma ofData_ofValue_eq_ok_iff (hnames : (v.members.map Prod.fst).Nodup) :
    ofData (Data.ofValue v) = .ok table ↔ v.WritesTable table := by
  by_cases hv : ∃ m ms, v = .object (m :: ms)
  · obtain ⟨m, ms, rfl⟩ := hv
    have hread : ofData (Data.ofValue (.object (m :: ms))) =
        readEntries [] (Data.ofMembers (m :: ms)) := rfl
    have hrows : ∀ rs, List.Forall₂ (fun m r => m.2.WritesRequirement r) (m :: ms) rs →
        putAll [] (named (Data.ofMembers (m :: ms)) rs) = ((m :: ms).map Prod.fst).zip rs := by
      intro rs hrs
      have hlength : ((m :: ms).map Prod.fst).length ≤ rs.length :=
        Nat.le_of_eq ((List.length_map _).trans hrs.length_eq)
      rw [named_ofMembers, putAll_of_nodup, List.nil_append]
      rw [List.nil_append, List.map_fst_zip hlength]
      exact hnames
    have hmapM : ∀ rs, (Data.ofMembers (m :: ms)).mapM readEntry = .ok rs ↔
        List.Forall₂ (fun m r => m.2.WritesRequirement r) (m :: ms) rs := by
      intro rs
      rw [Outcome.mapM_eq_ok, Data.ofMembers_eq_map, List.forall₂_map_left_iff]
      simp only [readEntry_string_eq_ok_iff]
    rw [hread, readEntries_eq_ok_iff]
    simp only [hmapM]
    constructor
    · rintro ⟨rs, hrs, rfl⟩
      refine ⟨m :: ms, rfl, List.cons_ne_nil _ _, ?_⟩
      rw [hrows rs hrs]
      exact exists_zip_iff.mp ⟨rs, hrs, rfl⟩
    · rintro ⟨ms', heq, -, htable⟩
      cases heq
      obtain ⟨rs, hrs, rfl⟩ := exists_zip_iff.mpr htable
      exact ⟨rs, hrs, (hrows rs hrs).symm⟩
  · push Not at hv
    constructor
    · intro h
      obtain ⟨entry, rest, rs, hdata, -, -⟩ := ofData_eq_ok_iff.mp h
      cases v with
      | object ms =>
        cases ms with
        | nil => cases hdata
        | cons m ms => exact absurd rfl (hv m ms)
      | _ => cases hdata
    · rintro ⟨ms, rfl, hne, -⟩
      obtain ⟨m, rest, rfl⟩ := List.exists_cons_of_ne_nil hne
      exact absurd rfl (hv m rest)

/-- Data of an object, cut at an entry, is the object cut at the member. -/
lemma ofValue_eq_mapping_iff {done rest : Entries} {entry : Yaml.Scalar × Data} :
    Data.ofValue v = .mapping (done ++ entry :: rest) ↔
      ∃ before m after, v = .object (before ++ m :: after) ∧ Data.ofMembers before = done ∧
        (.string m.1, Data.ofValue m.2) = entry ∧ Data.ofMembers after = rest := by
  cases v with
  | object ms =>
    have hdata : Data.ofValue (.object ms) = .mapping (Data.ofMembers ms) := rfl
    rw [hdata, Yaml.Data.mapping.injEq, Data.ofMembers_eq_map, List.map_eq_append_iff]
    simp only [List.map_eq_cons_iff, Data.ofMembers_eq_map, Value.object.injEq]
    constructor
    · rintro ⟨before, _, rfl, rfl, m, after, rfl, rfl, rfl⟩
      exact ⟨before, m, after, rfl, rfl, rfl, rfl⟩
    · rintro ⟨before, m, after, rfl, rfl, rfl, rfl⟩
      exact ⟨before, m :: after, rfl, rfl, m, after, rfl, rfl, rfl⟩
  | _ => simp [Data.ofValue]

/-- The fault of a value that writes no table has the message that the value deserves. -/
lemma exists_ofData_eq_error_iff :
    (∃ fault, ofData (Data.ofValue v) = .error fault ∧ fault.message source = message) ↔
      TableComplaint source v message := by
  have hwritten : ∀ before : Members,
      (∀ e ∈ Data.ofMembers before, ∃ r, readEntry e = .ok r) ↔
        ∀ m ∈ before, ∃ r, m.2.WritesRequirement r := by
    intro before
    rw [Data.ofMembers_eq_map, List.forall_mem_map]
    simp only [readEntry_string_eq_ok_iff]
  constructor
  · rintro ⟨fault, hfault, rfl⟩
    rcases ofData_eq_error_iff.mp hfault with ⟨rfl, hnone⟩ | ⟨done, e, rest, hdata, hdone, he⟩
    · apply TableComplaint.shape
      rintro m ms rfl
      exact hnone _ _ rfl
    · obtain ⟨before, m, after, rfl, rfl, rfl, rfl⟩ := ofValue_eq_mapping_iff.mp hdata
      exact .entry rfl ((hwritten before).mp hdone)
        (exists_readEntry_eq_error_iff.mp ⟨fault, he, rfl⟩)
  · intro h
    cases h with
    | shape h =>
      refine ⟨.notMapping, ofData_eq_error_iff.mpr (.inl ⟨rfl, ?_⟩), rfl⟩
      intro e rest hdata
      have hcut : Data.ofValue v = .mapping ([] ++ e :: rest) := hdata
      obtain ⟨before, m, after, hv, hbefore, -, -⟩ := ofValue_eq_mapping_iff.mp hcut
      cases before with
      | nil => exact h m after hv
      | cons n before => cases hbefore
    | entry h hdone hentry =>
      obtain ⟨fault, hfault, rfl⟩ := exists_readEntry_eq_error_iff.mpr hentry
      have hcut := ofValue_eq_mapping_iff.mpr ⟨_, _, _, h, rfl, rfl, rfl⟩
      have herror := ofData_eq_error_iff.mpr
        (.inr ⟨_, _, _, hcut, (hwritten _).mpr hdone, hfault⟩)
      exact ⟨fault, herror, rfl⟩

lemma ofData_ofValue_ne_keyTooLong : ofData (Data.ofValue v) ≠ .error .keyTooLong := by
  intro h
  rcases ofData_eq_error_iff.mp h with ⟨h, -⟩ | ⟨done, entry, rest, hdata, -, hentry⟩
  · cases h
  · obtain ⟨before, m, after, -, -, rfl, -⟩ := ofValue_eq_mapping_iff.mp hdata
    cases readEntry_eq_keyTooLong_iff.mp hentry

/-- The table that a JSON value writes; messages call the value by its source. -/
def ofValue (source : Text) (v : Value) : Except LoadFault RequirementTable :=
  (ofData (Data.ofValue v)).mapError (.ofShape source)

/-- Where a JSON value writes no table it is rejected, in the words of the fault. -/
lemma ofValue_eq_error_iff {e : LoadFault} :
    ofValue source v = .error e ↔
      ∃ fault, ofData (Data.ofValue v) = .error fault ∧ e = .rejected (.shape source fault) := by
  rw [ofValue, Outcome.mapError_eq_error]
  refine exists_congr fun fault => and_congr_right fun hfault => ?_
  cases fault with
  | keyTooLong => exact absurd hfault ofData_ofValue_ne_keyTooLong
  | _ => exact eq_comm

/-- A JSON value is read as a table exactly if it writes one, and as the table that it writes.  Any
other is rejected, and the message is the one that it deserves: of its first member that writes no
requirement, and of the first part that is wrong there, if it is an object that has members. -/
theorem ofValue_decides (source : Text) {v : Value} (h : v.NamesDistinct) :
    (∀ table, ofValue source v = .ok table ↔ v.WritesTable table) ∧
    ((∃ table, ofValue source v = .ok table) ∨
      ∃ rejection, ofValue source v = .error (.rejected rejection)) ∧
    ∀ message, (∃ rejection, ofValue source v = .error (.rejected rejection) ∧
      rejection.message = message) ↔ TableComplaint source v message := by
  have hnames : (v.members.map Prod.fst).Nodup := by
    cases h with
    | object hnodup => exact hnodup
    | _ => exact List.nodup_nil
  refine ⟨fun table => ?_, ?_, fun message => ?_⟩
  · rw [ofValue, Outcome.mapError_eq_ok, ofData_ofValue_eq_ok_iff hnames]
  · cases hread : ofValue source v with
    | ok table => exact .inl ⟨table, rfl⟩
    | error e =>
      obtain ⟨fault, -, rfl⟩ := ofValue_eq_error_iff.mp hread
      exact .inr ⟨_, rfl⟩
  · rw [← exists_ofData_eq_error_iff]
    constructor
    · rintro ⟨rejection, hread, rfl⟩
      obtain ⟨fault, hfault, heq⟩ := ofValue_eq_error_iff.mp hread
      cases heq
      exact ⟨fault, hfault, rfl⟩
    · rintro ⟨fault, hfault, rfl⟩
      exact ⟨_, ofValue_eq_error_iff.mpr ⟨fault, hfault, rfl⟩, rfl⟩

/-- What an entry leaves out it lists nothing under, and what else it holds is passed over. -/
example : ofValue "src" (.object [("Recipe", .object [("recommended", .array [.string "author"]),
    ("note", .null)])]) = .ok [("Recipe", ⟨[], ["author"]⟩)] := rfl

/-- Three members: a requirement with a member besides, one whose required properties are `null`,
and no object. -/
def halfWritten : Value :=
  .object [("Recipe", .object [("recommended", .array [.string "author"]), ("note", .null)]),
    ("Event", .object [("required", .null), ("recommended", .ofInt 5)]), ("Odd", .ofInt 3)]

theorem halfWritten_rejected :
    halfWritten.NamesDistinct ∧ (∀ table, ¬ halfWritten.WritesTable table) ∧
      (∃ rejection, ofValue "src" halfWritten = .error (.rejected rejection) ∧
        rejection.message = "Event.required in src must be a list of property names") ∧
      TableComplaint "src" halfWritten
        "Event.required in src must be a list of property names" := by
  have hdistinct : halfWritten.NamesDistinct := by
    refine .object (by decide) (List.forall_mem_cons.mpr ⟨.object (by decide) ?_,
      List.forall_mem_cons.mpr ⟨.object (by decide) ?_, ?_⟩⟩)
    · exact List.forall_mem_cons.mpr ⟨.array (List.forall_mem_singleton.mpr (.string _)),
        List.forall_mem_singleton.mpr .null⟩
    · exact List.forall_mem_cons.mpr ⟨.null, List.forall_mem_singleton.mpr (.number _)⟩
    · exact List.forall_mem_singleton.mpr (.number _)
  obtain ⟨htable, -, hmessage⟩ := ofValue_decides "src" hdistinct
  have hrejected : ∃ rejection, ofValue "src" halfWritten = .error (.rejected rejection) ∧
      rejection.message = "Event.required in src must be a list of property names" :=
    ⟨_, rfl, rfl⟩
  refine ⟨hdistinct, fun table hwrites => ?_, hrejected, (hmessage _).mp hrejected⟩
  obtain ⟨rejection, herror, -⟩ := hrejected
  rw [(htable table).mpr hwrites] at herror
  cases herror

end RequirementTable

end StructuredData
