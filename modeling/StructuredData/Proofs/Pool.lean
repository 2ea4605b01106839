import Mathlib.Data.Int.Notation
import StructuredData.Proofs.Outcome
import StructuredData.Validator

/-!
# Pools deliver in order

The tasks of a pool finish in some order of their positions, and those behind one that fails may be
called off.  As long as every task up to the first failure finishes (`Suffices`), the pool gives
what the tasks give one after another: the order shows neither in the results nor in the fault
(`collect_eq_mapM`).  The number of workers therefore makes no difference to the documents of a page
(`validateMany_eq_inTurn`).
-/

namespace StructuredData

namespace Pool

variable {ε α : Type} {tasks : List (Except ε α)}

/-- Every outcome that is filed stands under the position of its task. -/
def IsFiling (tasks : List (Except ε α)) (filed : List (ℕ × Except ε α)) : Prop :=
  ∀ entry ∈ filed, tasks[entry.1]? = some entry.2

lemma isFiling_file {filed : List (ℕ × Except ε α)} (h : IsFiling tasks filed) (i : ℕ) :
    IsFiling tasks (file tasks filed i) := by
  unfold file
  split
  · next outcome hi =>
    intro entry hentry
    rcases List.mem_cons.mp hentry with rfl | hentry
    · exact hi
    · exact h entry hentry
  · exact h

lemma mem_file {filed : List (ℕ × Except ε α)} {i : ℕ} {outcome : Except ε α}
    (hi : tasks[i]? = some outcome) : (i, outcome) ∈ file tasks filed i := by
  simp [file, hi]

lemma subset_file (filed : List (ℕ × Except ε α)) (i : ℕ) : filed ⊆ file tasks filed i := by
  unfold file
  split <;> simp

lemma isFiling_foldl (finish : List ℕ) {filed : List (ℕ × Except ε α)}
    (h : IsFiling tasks filed) : IsFiling tasks (finish.foldl (file tasks) filed) := by
  induction finish generalizing filed with
  | nil => exact h
  | cons i rest ih => exact ih (isFiling_file h i)

lemma subset_foldl (finish : List ℕ) (filed : List (ℕ × Except ε α)) :
    filed ⊆ finish.foldl (file tasks) filed := by
  induction finish generalizing filed with
  | nil => exact List.Subset.refl _
  | cons i rest ih => exact List.Subset.trans (subset_file filed i) (ih _)

/-- Once a task has finished, its outcome is filed and stays so. -/
lemma mem_foldl {finish : List ℕ} {i : ℕ} (hi : i ∈ finish) {outcome : Except ε α}
    (hout : tasks[i]? = some outcome) (filed : List (ℕ × Except ε α)) :
    (i, outcome) ∈ finish.foldl (file tasks) filed := by
  induction finish generalizing filed with
  | nil => simp at hi
  | cons j rest ih =>
    rcases List.mem_cons.mp hi with rfl | hi
    · exact subset_foldl rest _ (mem_file hout)
    · exact ih hi _

lemma find?_fileAll {finish : List ℕ} {i : ℕ} (hi : i ∈ finish) {outcome : Except ε α}
    (hout : tasks[i]? = some outcome) :
    (fileAll finish tasks).find? (fun entry => entry.1 = i) = some (i, outcome) := by
  have hmem : (i, outcome) ∈ fileAll finish tasks := mem_foldl hi hout []
  cases hfind : (fileAll finish tasks).find? (fun entry => entry.1 = i) with
  | none =>
    have hno := List.find?_eq_none.mp hfind _ hmem
    simp at hno
  | some entry =>
    have hkey : entry.1 = i := by simpa using List.find?_some hfind
    have hnil : IsFiling tasks [] := by simp [IsFiling]
    have hfiled : tasks[entry.1]? = some entry.2 :=
      isFiling_foldl finish hnil entry (List.mem_of_find?_eq_some hfind)
    rw [hkey, hout] at hfiled
    obtain ⟨j, r⟩ := entry
    simp_all

/-- The tasks that finish are enough for delivery: each of them does that has no failing task in
front of it.  What stands behind a failure may be called off. -/
def Suffices (finish : List ℕ) (tasks : List (Except ε α)) : Prop :=
  ∀ i < tasks.length, (∀ outcome ∈ tasks.take i, ∃ a, outcome = .ok a) → i ∈ finish

lemma suffices_of_forall {finish : List ℕ} (h : ∀ i < tasks.length, i ∈ finish) :
    Suffices finish tasks :=
  fun i hi _ => h i hi

/-- It is enough that all tasks finish, in whatever order. -/
lemma suffices_of_perm {finish : List ℕ} (h : finish.Perm (List.range tasks.length)) :
    Suffices finish tasks :=
  suffices_of_forall fun _ hi => h.mem_iff.mpr (List.mem_range.mpr hi)

/-- Delivery from a position on is the row of the tasks from there on, if those in front of it have
succeeded. -/
lemma deliver_fileAll {finish : List ℕ} (hfinish : Suffices finish tasks) (count i : ℕ)
    (hcount : count + i = tasks.length)
    (hbefore : ∀ outcome ∈ tasks.take i, ∃ a, outcome = .ok a) :
    deliver (fileAll finish tasks) count i = (tasks.drop i).mapM id := by
  induction count generalizing i with
  | zero =>
    rw [List.drop_of_length_le (by omega)]
    rfl
  | succ count ih =>
    have hi : i < tasks.length := by omega
    rw [deliver, find?_fileAll (hfinish i hi hbefore) (List.getElem?_eq_getElem hi),
      List.drop_eq_getElem_cons hi, List.mapM_cons]
    cases htask : tasks[i] with
    | ok a =>
      have hnext : ∀ outcome ∈ tasks.take (i + 1), ∃ a, outcome = .ok a := by
        rw [List.take_add_one, List.getElem?_eq_getElem hi, htask]
        simpa [or_imp, forall_and] using hbefore
      simp only [ih (i + 1) (by omega) hnext]
      rfl
    | error e => rfl

/-- A pool whose tasks finish, up to the first that fails, gives what the tasks give in turn,
whatever the order in which they finish. -/
lemma collect_eq_mapM {finish : List ℕ} (hfinish : Suffices finish tasks) :
    collect finish tasks = tasks.mapM id :=
  deliver_fileAll hfinish tasks.length 0 (Nat.add_zero _) (by simp)

end Pool

/-! ## Documents validated by a pool -/

namespace Validator

/-- The depth up to which documents are read that so many workers validate. -/
def depthAtWork (depths : Depths) (workers : Option ℤ) (ss : List Submission) : ℕ :=
  if usesPool workers ss then depths.pooled else depths.inTurn

lemma validatePooled_eq_inTurn (v : Validator) {depth : ℕ} {finish : List ℕ}
    {ss : List Submission} (hfinish : Pool.Suffices finish (ss.map (v.validateDocument depth))) :
    v.validatePooled depth finish ss = v.validateInTurn depth ss := by
  unfold validatePooled validateInTurn
  rw [Pool.collect_eq_mapM hfinish, List.mapM_map]
  rfl

lemma validateScheduled_eq_inTurn (v : Validator) {depths : Depths} {finish : List ℕ}
    (workers : Option ℤ) {ss : List Submission}
    (hfinish : Pool.Suffices finish (ss.map (v.validateDocument depths.pooled))) :
    v.validateScheduled depths finish workers ss =
      v.validateInTurn (depthAtWork depths workers ss) ss := by
  unfold validateScheduled depthAtWork
  split_ifs
  · exact v.validatePooled_eq_inTurn hfinish
  · rfl

lemma validateMany_eq_inTurn (v : Validator) (depths : Depths) (workers : Option ℤ)
    (ss : List Submission) :
    v.validateMany depths workers ss = v.validateInTurn (depthAtWork depths workers ss) ss := by
  have hrange : Pool.Suffices (List.range ss.length) (ss.map (v.validateDocument depths.pooled)) :=
    Pool.suffices_of_perm (by rw [List.length_map])
  exact v.validateScheduled_eq_inTurn workers hrange

end Validator

end StructuredData
