import StructuredData.Proofs.Outcome
import StructuredData.Requirement.Table

/-!
# The entries of a table

Data that is to be a table is read entry by entry.  What one entry stands for does not depend on
those around it (`readEntry`): the data is rejected with the fault of its first entry that stands
for nothing, and if there is none, the requirements of all entries are entered in turn
(`readEntries_eq`).  Under distinct names that gives a row for each entry (`putAll_of_nodup`).

`Yaml.Data.WritesRequirement` says which requirement an entry stands for without reference to the
reader.
-/

namespace StructuredData

namespace Yaml

/-- The entry of that name lists the texts; if there is no such entry, there are no texts. -/
def Entries.ListsNames (parts : Entries) (name : Text) (ts : List Text) : Prop :=
  parts.get? name = some (.list (ts.map fun t => .scalar (.string t))) ∨
    (parts.get? name = none ∧ ts = [])

/-- The data is a mapping that lists the properties of the requirement; what else it holds does not
matter. -/
def Data.WritesRequirement (data : Data) (r : Requirement) : Prop :=
  ∃ parts : Entries, data = .mapping parts ∧ parts.ListsNames "required" r.required ∧
    parts.ListsNames "recommended" r.recommended

end Yaml

namespace RequirementTable

open Yaml (Entries Scalar)

variable {table : RequirementTable} {name type : Text} {r : Requirement} {fault : ShapeFault}
  {parts : Entries} {ts : List Text}

/-! ## Entering requirements -/

lemma put_of_notMem (h : name ∉ table.map Prod.fst) : table.put name r = table ++ [(name, r)] := by
  induction table with
  | nil => rfl
  | cons entry rest ih =>
    rw [List.map_cons, List.mem_cons, not_or] at h
    rw [put, if_neg (Ne.symm h.1), ih h.2, List.cons_append]

/-- The table after the requirements of some names have been entered in turn. -/
def putAll (table : RequirementTable) (rows : List (Text × Requirement)) : RequirementTable :=
  rows.foldl (fun table row => table.put row.1 row.2) table

/-- Requirements under names that are new, and differ from each other, are put at the end. -/
lemma putAll_of_nodup {rows : List (Text × Requirement)}
    (h : ((table ++ rows).map Prod.fst).Nodup) : table.putAll rows = table ++ rows := by
  induction rows generalizing table with
  | nil => simp [putAll]
  | cons row rest ih =>
    have hnew : row.1 ∉ table.map Prod.fst := by
      intro hmem
      rw [List.map_append, List.map_cons, List.nodup_append] at h
      exact h.2.2 row.1 hmem row.1 List.mem_cons_self rfl
    have hput : table.put row.1 row.2 = table ++ [row] := put_of_notMem hnew
    show (table.put row.1 row.2).putAll rest = table ++ row :: rest
    rw [hput, ih (by simpa using h), List.append_assoc, List.singleton_append]

/-! ## One entry -/

lemma mapM_name?_eq_some_iff {items : List Yaml.Data} :
    items.mapM name? = some ts ↔ items = ts.map fun t => .scalar (.string t) := by
  have hname : ∀ (item : Yaml.Data) (t : Text), name? item = some t ↔
      item = .scalar (.string t) := by
    intro item t
    unfold name?
    split <;> simp_all
  induction items generalizing ts with
  | nil => cases ts <;> simp
  | cons item rest ih =>
    rw [List.mapM_cons]
    simp only [Option.bind_eq_bind, Option.bind_eq_some_iff, hname, ih, Option.pure_def,
      Option.some.injEq]
    constructor
    · rintro ⟨t, rfl, us, rfl, rfl⟩
      rfl
    · intro h
      obtain ⟨t, us, rfl, rfl, rfl⟩ := List.map_eq_cons_iff.mp h.symm
      exact ⟨t, rfl, us, rfl, rfl⟩

lemma names?_eq_some_iff : names? name parts = some ts ↔ parts.ListsNames name ts := by
  unfold names? Entries.ListsNames
  split
  · next h => simp [h, eq_comm]
  · next items h => simp [h, mapM_name?_eq_some_iff]
  · next data hlist h =>
    rw [h]
    have hne : ∀ items, data ≠ .list items := hlist
    simp [hne]

lemma names?_eq_none_iff : names? name parts = none ↔ ∀ ts, ¬ parts.ListsNames name ts := by
  rw [Option.eq_none_iff_forall_ne_some]
  exact forall_congr' fun ts => not_congr names?_eq_some_iff

lemma readRequirement_eq_ok_iff {key : Scalar} :
    readRequirement key parts = .ok r ↔
      parts.ListsNames "required" r.required ∧ parts.ListsNames "recommended" r.recommended := by
  rw [← names?_eq_some_iff, ← names?_eq_some_iff]
  obtain ⟨required, recommended⟩ := r
  unfold readRequirement
  cases names? "required" parts with
  | none => simp
  | some ts => cases names? "recommended" parts <;> simp

/-- The recommended properties are only looked at when the required ones are listed. -/
lemma readRequirement_eq_error_iff {key : Scalar} :
    readRequirement key parts = .error fault ↔
      ((∀ ts, ¬ parts.ListsNames "required" ts) ∧ fault = .notNames key "required") ∨
      ((∃ ts, parts.ListsNames "required" ts) ∧ (∀ ts, ¬ parts.ListsNames "recommended" ts) ∧
        fault = .notNames key "recommended") := by
  rw [← names?_eq_none_iff, ← names?_eq_none_iff]
  simp only [← names?_eq_some_iff]
  unfold readRequirement
  cases names? "required" parts with
  | none => simp [eq_comm]
  | some ts => cases names? "recommended" parts <;> simp [eq_comm]

/-- The requirement that one entry stands for. -/
def readEntry (entry : Scalar × Yaml.Data) : Except ShapeFault Requirement :=
  if isTooLong entry.1 then .error .keyTooLong
  else match entry.2 with
    | .mapping parts => readRequirement entry.1 parts
    | _ => .error (.entryNotMapping entry.1)

lemma readEntry_eq_ok_iff {entry : Scalar × Yaml.Data} :
    readEntry entry = .ok r ↔ isTooLong entry.1 = false ∧ entry.2.WritesRequirement r := by
  unfold readEntry Yaml.Data.WritesRequirement
  by_cases hkey : isTooLong entry.1 = true
  · simp [hkey]
  · rw [if_neg hkey]
    split
    · next parts h => simp [h, hkey, readRequirement_eq_ok_iff]
    · next h =>
      have hne : ∀ parts, entry.2 ≠ .mapping parts := h
      simp [hne]

lemma readEntry_eq_keyTooLong_iff {entry : Scalar × Yaml.Data} :
    readEntry entry = .error .keyTooLong ↔ isTooLong entry.1 = true := by
  unfold readEntry
  by_cases hkey : isTooLong entry.1 = true
  · simp [hkey]
  · rw [if_neg hkey]
    split
    · simp [hkey, readRequirement_eq_error_iff]
    · simp [hkey]

/-! ## One entry after another -/

/-- The names of some entries with their requirements. -/
def named (entries : Entries) (rs : List Requirement) : List (Text × Requirement) :=
  (entries.map fun entry => entry.1.spelled).zip rs

lemma readEntries_cons (table : RequirementTable) (entry : Scalar × Yaml.Data) (rest : Entries) :
    readEntries table (entry :: rest) =
      readEntry entry >>= fun r => readEntries (table.put entry.1.spelled r) rest := by
  obtain ⟨key, value⟩ := entry
  by_cases hkey : isTooLong key = true
  · simp [readEntries, readEntry, hkey, bind, Except.bind]
  · cases value <;> simp [readEntries, readEntry, hkey, bind, Except.bind]

/-- The entries are read one by one, and entered when all of them stand for a requirement. -/
lemma readEntries_eq (table : RequirementTable) (entries : Entries) :
    readEntries table entries =
      (entries.mapM readEntry).map fun rs => table.putAll (named entries rs) := by
  induction entries generalizing table with
  | nil => rfl
  | cons entry rest ih =>
    rw [readEntries_cons, List.mapM_cons]
    cases readEntry entry with
    | error fault => rfl
    | ok r =>
      show readEntries (table.put entry.1.spelled r) rest = _
      rw [ih]
      cases rest.mapM readEntry <;> rfl

lemma readEntries_eq_error_iff {entries : Entries} :
    readEntries table entries = .error fault ↔ entries.mapM readEntry = .error fault := by
  rw [readEntries_eq]
  cases entries.mapM readEntry <;> simp [Except.map]

lemma readEntries_eq_ok_iff {entries : Entries} {result : RequirementTable} :
    readEntries table entries = .ok result ↔
      ∃ rs, entries.mapM readEntry = .ok rs ∧ result = table.putAll (named entries rs) := by
  rw [readEntries_eq]
  cases entries.mapM readEntry <;> simp [Except.map, eq_comm]

/-- Data is rejected as a whole, or with the fault of its first entry that stands for nothing. -/
lemma ofData_eq_error_iff {data : Yaml.Data} :
    ofData data = .error fault ↔
      (fault = .notMapping ∧ ∀ entry rest, data ≠ .mapping (entry :: rest)) ∨
      ∃ done entry rest, data = .mapping (done ++ entry :: rest) ∧
        (∀ e ∈ done, ∃ r, readEntry e = .ok r) ∧ readEntry entry = .error fault := by
  by_cases hdata : ∃ entry rest, data = .mapping (entry :: rest)
  · obtain ⟨entry, rest, rfl⟩ := hdata
    have hread : ofData (.mapping (entry :: rest)) = readEntries [] (entry :: rest) := rfl
    rw [hread, readEntries_eq_error_iff, Outcome.mapM_eq_error]
    constructor
    · rintro ⟨done, e, after, hsplit, hdone, he⟩
      exact .inr ⟨done, e, after, congrArg Yaml.Data.mapping hsplit, hdone, he⟩
    · rintro (⟨-, hnone⟩ | ⟨done, e, after, hsplit, hdone, he⟩)
      · exact absurd rfl (hnone entry rest)
      · exact ⟨done, e, after, Yaml.Data.mapping.inj hsplit, hdone, he⟩
  · push Not at hdata
    have hread : ofData data = .error .notMapping := by
      unfold ofData
      split
      · rfl
      · next entries hne =>
        obtain ⟨entry, rest, rfl⟩ := List.exists_cons_of_ne_nil hne
        exact absurd rfl (hdata entry rest)
      · rfl
    rw [hread]
    constructor
    · intro h
      cases h
      exact .inl ⟨rfl, hdata⟩
    · rintro (⟨rfl, -⟩ | ⟨done, e, after, hsplit, -, -⟩)
      · rfl
      · exfalso
        cases done with
        | nil => exact hdata e after hsplit
        | cons d done => exact hdata d (done ++ e :: after) hsplit

lemma ofData_eq_ok_iff {data : Yaml.Data} {result : RequirementTable} :
    ofData data = .ok result ↔
      ∃ entry rest rs, data = .mapping (entry :: rest) ∧
        (entry :: rest).mapM readEntry = .ok rs ∧
        result = putAll [] (named (entry :: rest) rs) := by
  unfold ofData
  split
  · simp
  · next entries hne =>
    obtain ⟨entry, rest, rfl⟩ := List.exists_cons_of_ne_nil hne
    rw [readEntries_eq_ok_iff]
    constructor
    · rintro ⟨rs, hrs, rfl⟩
      exact ⟨entry, rest, rs, rfl, hrs, rfl⟩
    · rintro ⟨entry', rest', rs, heq, hrs, rfl⟩
      cases heq
      exact ⟨rs, hrs, rfl⟩
  · next hdata =>
    constructor
    · intro h
      cases h
    · rintro ⟨entry, rest, rs, rfl, -, -⟩
      exact absurd rfl (hdata (entry :: rest))

end RequirementTable

end StructuredData
