import Mathlib.Tactic.Common
import StructuredData.Check.Basic

/-!
# What a check records

A check is at work on a collector that it shares with others, and could do there what it likes.
Checks that record one finding after another only add to it: whatever the collector holds, they put
a row of findings behind it, always the same one, and end in the same way (`Checking.Records`).  A
check that fails has recorded a row, too, up to its fault.

The row of a check is put together as the check is: of the rows of its parts one after another
(`Records.seq`), and of those for the elements of a list (`records_forM`).  Where a part can fail,
the row is there only if it does not (`Makes`).

Hence what a check finds shows already in a collector with nothing in it, and behind the findings of
others a check leaves the same (`OnlyAdds`).
-/

namespace StructuredData

namespace Findings

lemma recordAll_append (fs : Findings) (row row' : List Finding) :
    fs.recordAll (row ++ row') = (fs.recordAll row).recordAll row' := List.foldl_append

/-- Findings are known by their three lists. -/
lemma ext_ofSeverity {fs fs' : Findings} (h : ∀ s, fs.ofSeverity s = fs'.ofSeverity s) :
    fs = fs' := by
  obtain ⟨errors, warnings, info⟩ := fs
  obtain ⟨errors', warnings', info'⟩ := fs'
  have herrors : errors = errors' := h .error
  have hwarnings : warnings = warnings' := h .warning
  have hinfo : info = info' := h .info
  rw [herrors, hwarnings, hinfo]

/-- A row that is recorded comes behind what is there, list by list. -/
lemma recordAll_eq_append (fs : Findings) (row : List Finding) :
    fs.recordAll row = fs ++ ofList row := by
  refine ext_ofSeverity fun s => ?_
  rw [ofSeverity_recordAll, ofSeverity_append, ofSeverity_ofList]

end Findings

namespace Checking

variable {α β : Type} {first second : Checking Unit} {row row' : List Finding}
  {r : Except ValidationFault β} {fault : ValidationFault}

/-- Whatever the collector holds, the check records the row there and ends with the result. -/
def Records (check : Checking α) (row : List Finding) (r : Except ValidationFault α) : Prop :=
  ∀ fs, check.on fs = (r, fs.recordAll row)

lemma on_bind (check : Checking α) (next : α → Checking β) (fs : Findings) :
    (check >>= next).on fs =
      match check.on fs with
      | (.ok a, fs') => (next a).on fs'
      | (.error fault, fs') => (.error fault, fs') := by
  simp only [on, bind, ExceptT.bind, ExceptT.mk, ExceptT.run, StateT.run, StateT.bind]
  rcases check fs with ⟨_ | _, fs'⟩ <;> rfl

/-! ## Single findings -/

lemma records_pure (a : α) : Records (pure a) [] (.ok a) := fun _ => rfl

lemma records_record (f : Finding) : Records (record f) [f] (.ok ()) := fun _ => rfl

lemma records_recordIf (condition : Bool) (f : Finding) :
    Records (recordIf condition f) (Check.when condition f) (.ok ()) := by
  cases condition
  · exact records_pure ()
  · exact records_record f

lemma records_ofExcept (r : Except ValidationFault α) : Records (ofExcept r) [] r := by
  cases r <;> exact fun _ => rfl

/-! ## One check after another -/

/-- A check that goes on from what another gives records its row after that of the other. -/
lemma Records.bind {check : Checking α} {next : α → Checking β} {a : α}
    (h : check.Records row (.ok a)) (hnext : (next a).Records row' r) :
    (check >>= next).Records (row ++ row') r := by
  intro fs
  rw [on_bind, h, Findings.recordAll_append]
  exact hnext _

/-- After a fault nothing more is recorded. -/
lemma Records.bind_error {check : Checking α} (h : check.Records row (.error fault))
    (next : α → Checking β) : (check >>= next).Records row (.error fault) := by
  intro fs
  rw [on_bind, h]

lemma Records.seq {second : Checking β} (h : first.Records row (.ok ()))
    (hsecond : second.Records row' r) : (first >>= fun _ => second).Records (row ++ row') r :=
  h.bind hsecond

/-! ## Lists -/

lemma records_forM {xs : List α} {check : α → Checking Unit} {row : α → List Finding}
    (h : ∀ x ∈ xs, (check x).Records (row x) (.ok ())) :
    Records (xs.forM check) (xs.flatMap row) (.ok ()) := by
  induction xs with
  | nil => exact records_pure ()
  | cons x xs ih =>
    obtain ⟨hx, hxs⟩ := List.forall_mem_cons.mp h
    exact hx.seq (ih hxs)

/-! ## Rows that may be missing -/

/-- The check records the row where there is one; where there is a fault instead, it ends with it,
after some row. -/
def Makes (check : Checking Unit) : Except ValidationFault (List Finding) → Prop
  | .ok row => check.Records row (.ok ())
  | .error fault => ∃ row, check.Records row (.error fault)

/-- A check in front records its row first. -/
lemma Makes.after {remarks : Except ValidationFault (List Finding)} (h : second.Makes remarks)
    (hfirst : first.Records row (.ok ())) :
    Makes (first >>= fun _ => second) (remarks.map (row ++ ·)) := by
  cases remarks with
  | ok row' => exact hfirst.seq h
  | error fault =>
    obtain ⟨row', h⟩ := h
    exact ⟨_, hfirst.seq h⟩

/-- A check behind records its row last. -/
lemma Makes.before {remarks : Except ValidationFault (List Finding)} (h : first.Makes remarks)
    (hsecond : second.Records row (.ok ())) :
    Makes (first >>= fun _ => second) (remarks.map (· ++ row)) := by
  cases remarks with
  | ok row' => exact Records.seq h hsecond
  | error fault =>
    obtain ⟨row', h⟩ := h
    exact ⟨row', h.bind_error _⟩

/-! ## Alone and behind others -/

/-- How a check ends that is given a collector with nothing in it. -/
def ending (check : Checking α) : Except ValidationFault α := (check.on .empty).1

/-- What a check leaves in a collector with nothing in it. -/
def alone (check : Checking α) : Findings := (check.on .empty).2

/-- Whatever the collector holds stays there, the check puts behind it, list by list, what it would
leave in an empty one, and ends as it would there. -/
def OnlyAdds (check : Checking α) : Prop := ∀ fs, check.on fs = (check.ending, fs ++ check.alone)

lemma Records.ending_eq {check : Checking β} (h : check.Records row r) : check.ending = r :=
  congrArg Prod.fst (h .empty)

lemma Records.alone_eq {check : Checking β} (h : check.Records row r) :
    check.alone = Findings.ofList row := congrArg Prod.snd (h .empty)

lemma Records.onlyAdds {check : Checking β} (h : check.Records row r) : check.OnlyAdds := by
  intro fs
  rw [h.ending_eq, h.alone_eq, ← Findings.recordAll_eq_append]
  exact h fs

lemma Makes.onlyAdds {check : Checking Unit} {remarks : Except ValidationFault (List Finding)}
    (h : check.Makes remarks) : check.OnlyAdds := by
  cases remarks with
  | ok row => exact Records.onlyAdds h
  | error fault =>
    obtain ⟨row, h⟩ := h
    exact h.onlyAdds

/-- Checks that only add, one after another, come to their end if each of them does alone, and then
leave what each of them leaves alone, in their order. -/
lemma on_forM_eq_ok_iff {checks : List (Checking Unit)} (h : ∀ check ∈ checks, check.OnlyAdds)
    {fs fs' : Findings} :
    (checks.forM id).on fs = (.ok (), fs') ↔
      (∀ check ∈ checks, check.ending = .ok ()) ∧
        fs' = checks.foldl (fun fs check => fs ++ check.alone) fs := by
  induction checks generalizing fs with
  | nil =>
    have hnothing : (List.forM [] id : Checking Unit).on fs = (.ok (), fs) := rfl
    rw [hnothing]
    simp [eq_comm]
  | cons check checks ih =>
    obtain ⟨hcheck, hchecks⟩ := List.forall_mem_cons.mp h
    have hcons : List.forM (check :: checks) id = (check >>= fun _ => checks.forM id) := rfl
    rw [hcons, on_bind, hcheck fs, List.forall_mem_cons, List.foldl_cons, and_assoc]
    cases hending : check.ending with
    | ok => simpa using ih hchecks
    | error fault => simp

end Checking

end StructuredData
