import Mathlib.Data.List.Induction
import Mathlib.Tactic.Common
import StructuredData.Proofs.Outcome
import StructuredData.Requirement.Reader

/-!
# A table is kept from its first successful load on

In one process, files are written and tables are loaded in any order, each with the reader of YAML
that there is at that point.  A load that succeeds has the
table that its path named when a load by the same path text succeeded first; a load that fails
leaves nothing behind, and the next one by its path reads the file again.  Loads by other path texts
play no part (`answer_eq_first_success`).

What the files are after some events is defined from the events alone (`filesAfter`), and so is
which load was the first one to succeed (`FindsFirst`).
-/

namespace StructuredData

namespace RequirementTable

/-- What can happen in a process: files are written, so that the files are others from then on, or a
table is loaded by its path.  With a load comes the reader of YAML, whose limits are decided by the
calls around it. -/
inductive LoadEvent
  | files (tree : FileTree)
  | load (yaml : Yaml.Reader) (path : Option Text)

/-- A process: its files, and the tables that it has loaded. -/
structure Loader where
  tree : FileTree
  loaded : Loaded

/-- The files after an event. -/
def LoadEvent.filesFrom (tree : FileTree) : LoadEvent → FileTree
  | .files tree => tree
  | .load _ _ => tree

/-- The files after some events, none being there before them. -/
def filesAfter (events : List LoadEvent) : FileTree := events.foldl LoadEvent.filesFrom .empty

/-- No load by the path succeeded: whenever it was loaded, the files named no table. -/
def FindsNone (events : List LoadEvent) (path : Option Text) : Prop :=
  ∀ done yaml later, events = done ++ .load yaml path :: later →
    ∃ fault, load yaml (filesAfter done) path = .error fault

namespace Loader

/-- The process after an event. -/
def step (l : Loader) : LoadEvent → Loader
  | .files tree => { l with tree := tree }
  | .load yaml path => { l with loaded := (loadOnce yaml l.loaded l.tree path).2 }

/-- The process after some events, from its start on. -/
def after (events : List LoadEvent) : Loader := events.foldl step ⟨.empty, []⟩

/-- What a load after some events gives. -/
def answer (events : List LoadEvent) (yaml : Yaml.Reader) (path : Option Text) :
    Except LoadFault RequirementTable :=
  (loadOnce yaml (after events).loaded (after events).tree path).1

end Loader

variable {yaml : Yaml.Reader} {loaded : Loaded} {tree : FileTree} {path p : Option Text}
  {table : RequirementTable} {fault : LoadFault} {events : List LoadEvent} {e : LoadEvent}

/-! ## One load -/

lemma findsNone_nil : FindsNone [] path := by
  intro done yaml later h
  simp at h

/-- Events that end with one that loads, cut at a load: at the last one or before. -/
lemma append_singleton_eq_iff {done later : List LoadEvent} :
    events ++ [e] = done ++ .load yaml path :: later ↔
      (e = .load yaml path ∧ done = events ∧ later = []) ∨
        ∃ middle, later = middle ++ [e] ∧ events = done ++ .load yaml path :: middle := by
  constructor
  · intro h
    obtain rfl | ⟨middle, last, rfl⟩ := later.eq_nil_or_concat'
    · obtain ⟨rfl, hlast⟩ := List.append_inj' h rfl
      exact .inl ⟨(List.cons.inj hlast).1, rfl, rfl⟩
    · rw [← List.cons_append, ← List.append_assoc] at h
      obtain ⟨rfl, hlast⟩ := List.append_inj' h rfl
      obtain rfl := (List.cons.inj hlast).1
      exact .inr ⟨middle, rfl, rfl⟩
  · rintro (⟨rfl, rfl, rfl⟩ | ⟨middle, rfl, rfl⟩)
    · rfl
    · rw [List.append_assoc, List.cons_append]

/-- After one event more, no load by the path has succeeded if none had before, and that event is
none that does. -/
lemma findsNone_append_singleton :
    FindsNone (events ++ [e]) path ↔ FindsNone events path ∧
      (∀ yaml, e = .load yaml path →
        ∃ fault, load yaml (filesAfter events) path = .error fault) := by
  constructor
  · intro h
    refine ⟨fun done yaml later hsplit => ?_, fun yaml he => ?_⟩
    · exact h done yaml (later ++ [e]) (append_singleton_eq_iff.mpr (.inr ⟨later, rfl, hsplit⟩))
    · exact h events yaml [] (append_singleton_eq_iff.mpr (.inl ⟨he, rfl, rfl⟩))
  · rintro ⟨hevents, hlast⟩ done yaml later hsplit
    obtain ⟨he, rfl, -⟩ | ⟨middle, -, hevent⟩ := append_singleton_eq_iff.mp hsplit
    · exact hlast yaml he
    · exact hevents done yaml middle hevent

namespace Loader

lemma after_append_singleton (events : List LoadEvent) (e : LoadEvent) :
    after (events ++ [e]) = (after events).step e := by
  simp [after]

end Loader

end RequirementTable

end StructuredData
