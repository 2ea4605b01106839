import Mathlib.Data.List.Induction
import Mathlib.Tactic.Common
import StructuredData.Proofs.Outcome
import StructuredData.Service

/-!
# A service binds its validator once

Between the requests to a service, the files and the path of the requirement table can change at
will.  As long as no request has found a table, each of them fails with the fault of the table that
files and path name at that time, and nothing of it stays behind; the first request that finds a
table binds the service to it, and from then on every request is answered as a validator of that
table answers it, whatever the answers are and whatever changes later (`bound_once`).

What files and path are after some events is defined from the events alone (`settingsAfter`), and so
is the table that they name (`tableAfter`).
-/

namespace StructuredData

/-! ## Requests and other events -/

/-- What a service is asked for: to validate a document, a row of items, or a page of items.  With
each comes how deep its documents are read, which is decided by the calls around it. -/
inductive Request
  | document (depth : ℕ) (label schema : Value)
  | row (depths : Depths) (items : List Value)
  | page (depths : Depths) (items : List Value)

/-- What a request is answered with. -/
inductive Answer
  | findings (fs : Findings)
  | documents (documents : List ValidatedDocument)
  | report (r : PageReport)

/-- The answer of a validator to a request. -/
def Validator.answerTo (v : Validator) : Request → Except Failure Answer
  | .document depth label schema =>
    ((v.validate depth ⟨label, schema⟩).mapError .validation).map .findings
  | .row depths items => (v.validateItems depths none items).map .documents
  | .page depths items => (v.validateItemsPage depths none items).map .report

/-- What can happen around a service: files are written, so that the files are others from then on,
the path of the table is set, or a request comes in, with the reader of YAML that there is then. -/
inductive Event
  | files (tree : FileTree)
  | rulesPath (path : Option Text)
  | request (yaml : Yaml.Reader) (r : Request)

namespace Service

/-- The answer of a service to a request, and the service after it. -/
def handle (s : Service) (yaml : Yaml.Reader) : Request → Except Failure Answer × Service
  | .document depth label schema => (s.validate yaml depth label schema).map (·.map .findings) id
  | .row depths items => (s.validateMany yaml depths items).map (·.map .documents) id
  | .page depths items => (s.validatePage yaml depths items).map (·.map .report) id

/-- The service after an event. -/
def step (s : Service) : Event → Service
  | .files tree => { s with tree := tree }
  | .rulesPath path => { s with rulesPath := path }
  | .request yaml r => (s.handle yaml r).2

/-- The service after some events, from its start on. -/
def after (events : List Event) : Service := events.foldl step start

/-- The files and the path of the table after an event. -/
def changed (settings : FileTree × Option Text) : Event → FileTree × Option Text
  | .files tree => (tree, settings.2)
  | .rulesPath path => (settings.1, path)
  | .request _ _ => settings

/-- The files and the path of the table after some events. -/
def settingsAfter (events : List Event) : FileTree × Option Text :=
  events.foldl changed (FileTree.empty, none)

/-- The table that files and path name after some events. -/
def tableAfter (events : List Event) (yaml : Yaml.Reader) :
    Except RequirementTable.LoadFault RequirementTable :=
  RequirementTable.load yaml (settingsAfter events).1 (settingsAfter events).2

/-- No request among the events found a table. -/
def FindsNone (events : List Event) : Prop :=
  ∀ done yaml r later, events = done ++ .request yaml r :: later →
    ∃ fault, tableAfter done yaml = .error fault

/-! ## One request -/

variable {s : Service} {v : Validator} {yaml : Yaml.Reader}
  {fault : RequirementTable.LoadFault} {table : RequirementTable} {events done later : List Event}
  {e : Event}

lemma handle_eq_answer (s : Service) (yaml : Yaml.Reader) (r : Request) :
    s.handle yaml r = s.answer yaml (·.answerTo r) := by
  unfold handle validate validateMany validatePage answer
  rcases s.validator yaml with ⟨_ | v, s'⟩ <;> cases r <;> rfl

/-- A service that has a validator answers as it does, and stays as it is. -/
lemma handle_of_validator (h : s.validator? = some v) (yaml : Yaml.Reader) (r : Request) :
    s.handle yaml r = (v.answerTo r, s) := by
  simp only [handle_eq_answer, answer, validator, h]

/-- Nothing is remembered: neither a validator nor a table. -/
structure IsBlank (s : Service) : Prop where
  validator? : s.validator? = none
  loaded : s.loaded = []

/-- A service that remembers nothing and finds no table fails with the fault, and stays as it is. -/
lemma IsBlank.handle_of_error (h : s.IsBlank)
    (hload : RequirementTable.load yaml s.tree s.rulesPath = .error fault) (r : Request) :
    s.handle yaml r = (.error (.table fault), s) := by
  obtain ⟨tree, path, loaded, v?⟩ := s
  obtain ⟨hvalidator, hloaded⟩ := h
  dsimp only at hvalidator hloaded hload
  subst hvalidator hloaded
  simp only [handle_eq_answer, answer, validator, RequirementTable.loadOnce, List.find?_nil, hload]

/-- A service that remembers nothing and finds a table answers as the table's validator does, and
has it from then on. -/
lemma IsBlank.handle_of_ok (h : s.IsBlank)
    (hload : RequirementTable.load yaml s.tree s.rulesPath = .ok table) (r : Request) :
    (s.handle yaml r).1 = (Validator.mk table {}).answerTo r ∧
      (s.handle yaml r).2.validator? = some ⟨table, {}⟩ := by
  simp only [handle_eq_answer, answer, validator, h.validator?, h.loaded,
    RequirementTable.loadOnce, List.find?_nil, hload, and_self]

/-- Requests leave files and path alone. -/
lemma settings_handle (s : Service) (yaml : Yaml.Reader) (r : Request) :
    (s.handle yaml r).2.tree = s.tree ∧ (s.handle yaml r).2.rulesPath = s.rulesPath := by
  rw [handle_eq_answer]
  unfold answer validator
  cases s.validator? with
  | some v => exact ⟨rfl, rfl⟩
  | none =>
    rcases RequirementTable.loadOnce yaml s.loaded s.tree s.rulesPath with ⟨_ | _, _⟩ <;> simp

/-! ## One event after another -/

lemma step_validator? (h : s.validator? = some v) (e : Event) : (s.step e).validator? = some v := by
  cases e with
  | files tree => exact h
  | rulesPath path => exact h
  | request yaml r =>
    rw [step, handle_of_validator h]
    exact h

/-- A validator that has been made stays, whatever happens. -/
lemma foldl_validator? (h : s.validator? = some v) (events : List Event) :
    (events.foldl step s).validator? = some v := by
  induction events generalizing s with
  | nil => exact h
  | cons e rest ih => exact ih (step_validator? h e)

lemma after_append_singleton (events : List Event) (e : Event) :
    after (events ++ [e]) = (after events).step e := by
  simp [after]

lemma settingsAfter_append_singleton (events : List Event) (e : Event) :
    settingsAfter (events ++ [e]) = changed (settingsAfter events) e := by
  simp [settingsAfter]

/-- The files and the path of a service are those that the events leave. -/
lemma settings_after (events : List Event) :
    ((after events).tree, (after events).rulesPath) = settingsAfter events := by
  induction events using List.reverseRecOn with
  | nil => rfl
  | append_singleton events e ih =>
    rw [after_append_singleton, settingsAfter_append_singleton, ← ih]
    cases e with
    | files tree => rfl
    | rulesPath path => rfl
    | request yaml r =>
      obtain ⟨htree, hpath⟩ := settings_handle (after events) yaml r
      exact Prod.ext htree hpath

/-- What a service would load is the table that its files and its path name. -/
lemma load_after (events : List Event) (yaml : Yaml.Reader) :
    RequirementTable.load yaml (after events).tree (after events).rulesPath =
      tableAfter events yaml := by
  rw [tableAfter, ← settings_after]

/-! ## Whole histories -/

lemma findsNone_nil : FindsNone [] := by
  intro done yaml r later h
  simp at h

/-- A further event leaves no table found unless it is a request that finds one. -/
lemma findsNone_append_singleton (events : List Event) (e : Event) :
    FindsNone (events ++ [e]) ↔
      FindsNone events ∧
        ∀ yaml r, e = .request yaml r → ∃ fault, tableAfter events yaml = .error fault := by
  constructor
  · intro h
    refine ⟨fun done yaml r later hsplit => ?_, ?_⟩
    · exact h done yaml r (later ++ [e]) (by rw [hsplit, List.append_assoc, List.cons_append])
    · rintro yaml r rfl
      exact h events yaml r [] rfl
  · rintro ⟨h, hlast⟩ done yaml r later hsplit
    obtain rfl | ⟨later, last, rfl⟩ := later.eq_nil_or_concat'
    · obtain ⟨rfl, hreq⟩ := List.append_inj' hsplit rfl
      exact hlast yaml r (List.cons.inj hreq).1
    · rw [← List.cons_append, ← List.append_assoc] at hsplit
      obtain ⟨rfl, -⟩ := List.append_inj' hsplit rfl
      exact h done yaml r later rfl

/-- Requests that find no table leave nothing behind. -/
lemma isBlank_after (h : FindsNone events) : (after events).IsBlank := by
  induction events using List.reverseRecOn with
  | nil => exact ⟨rfl, rfl⟩
  | append_singleton events e ih =>
    obtain ⟨hevents, hlast⟩ := (findsNone_append_singleton events e).mp h
    have hblank := ih hevents
    rw [after_append_singleton]
    cases e with
    | files tree => exact ⟨hblank.validator?, hblank.loaded⟩
    | rulesPath path => exact ⟨hblank.validator?, hblank.loaded⟩
    | request yaml r =>
      obtain ⟨fault, hfault⟩ := hlast yaml r rfl
      rw [← load_after] at hfault
      rw [step, hblank.handle_of_error hfault]
      exact hblank

/-- The first request that finds a table leaves its validator, whatever happens later. -/
lemma validator?_after (hdone : FindsNone done) (htable : tableAfter done yaml = .ok table)
    (first : Request) (later : List Event) :
    (after (done ++ .request yaml first :: later)).validator? = some ⟨table, {}⟩ := by
  rw [← load_after] at htable
  have hfirst : ((after done).step (.request yaml first)).validator? = some ⟨table, {}⟩ :=
    ((isBlank_after hdone).handle_of_ok htable first).2
  unfold after
  rw [List.foldl_append, List.foldl_cons]
  exact foldl_validator? hfirst later

/-- Either no request has found a table, or there is a first one that did. -/
lemma findsNone_or_found (events : List Event) :
    FindsNone events ∨ ∃ done yaml first later table,
      events = done ++ .request yaml first :: later ∧ FindsNone done ∧
        tableAfter done yaml = .ok table := by
  induction events using List.reverseRecOn with
  | nil => exact .inl findsNone_nil
  | append_singleton events e ih =>
    obtain hnone | ⟨done, yaml, first, later, table, rfl, hdone, htable⟩ := ih
    · by_cases hlast : ∀ yaml r, e = .request yaml r →
          ∃ fault, tableAfter events yaml = .error fault
      · exact .inl ((findsNone_append_singleton events e).mpr ⟨hnone, hlast⟩)
      · push Not at hlast
        obtain ⟨yaml, first, rfl, hfound⟩ := hlast
        cases htable : tableAfter events yaml with
        | error fault => exact absurd htable (hfound fault)
        | ok table => exact .inr ⟨events, yaml, first, [], table, rfl, hnone, htable⟩
    · exact .inr ⟨done, yaml, first, later ++ [e], table, by simp, hdone, htable⟩

/-- After any events, either no request has found a table yet, and then each fails with the fault of
the table that files and path name now, which leaves the service as it is, or is answered as a
validator of that table answers it.  Or there is a first request that found a table, and then each
is answered as a validator of that table answers it, whatever has been asked, written and set
since. -/
theorem bound_once (events : List Event) :
    (FindsNone events ∧ ∀ (yaml : Yaml.Reader) (r : Request),
      (∃ fault, tableAfter events yaml = .error fault ∧
        (after events).handle yaml r = (.error (.table fault), after events)) ∨
      ∃ table, tableAfter events yaml = .ok table ∧
        ((after events).handle yaml r).1 = (Validator.mk table {}).answerTo r) ∨
    ∃ done first request later table, events = done ++ .request first request :: later ∧
      FindsNone done ∧ tableAfter done first = .ok table ∧
        ∀ (yaml : Yaml.Reader) (r : Request),
          (after events).handle yaml r = ((Validator.mk table {}).answerTo r, after events) := by
  obtain hnone | ⟨done, first, request, later, table, rfl, hdone, htable⟩ :=
    findsNone_or_found events
  · refine .inl ⟨hnone, fun yaml r => ?_⟩
    have hblank := isBlank_after hnone
    have hload := load_after events yaml
    cases htable : tableAfter events yaml with
    | error fault => exact .inl ⟨fault, rfl, hblank.handle_of_error (hload.trans htable) r⟩
    | ok table => exact .inr ⟨table, rfl, (hblank.handle_of_ok (hload.trans htable) r).1⟩
  · exact .inr ⟨done, first, request, later, table, rfl, hdone, htable,
      handle_of_validator (validator?_after hdone htable request later)⟩

/-- The path leads to no file at first; the request that finds the packaged table fails as well, yet
binds the service to it. -/
example (yaml : Yaml.Reader) :
    (after [.rulesPath (some "rules.yaml"), .request yaml (.row ⟨9, 9, 9, 9⟩ []), .rulesPath none,
      .request yaml (.row ⟨8, 8, 8, 8⟩ [.null]), .rulesPath (some "rules.yaml")]).validator? =
      some ⟨RequirementTable.packaged, {}⟩ := rfl

end Service

end StructuredData
