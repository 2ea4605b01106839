import StructuredData.Proofs.CommandLine.Session

/-!
# Sessions that only log

Up to the point where a command begins to put out its result, it reads files and makes log records.
Such a session leaves the console with some records more and is otherwise without effect, however it
ends.
-/

namespace StructuredData

namespace CommandLine

namespace Session

variable {α β ε : Type} {place : Surroundings × LogTarget} {c c' : Console}

/-- The console with a row of log records on it. -/
def loggedAll (place : Surroundings × LogTarget) (rs : List LogRecord) (c : Console) : Console :=
  rs.foldl (fun c r => logged place.2 place.1.logTime r c) c

/-- However the session ends, all that it has done is to make log records. -/
def LogsOnly (m : Session α) : Prop := ∀ place c, ∃ rs, (runOn m place c).2 = loggedAll place rs c

/-! ## What log records do -/

lemma out_logged (target : LogTarget) (time : Text) (r : LogRecord) (c : Console) :
    (logged target time r c).out = c.out := by
  unfold logged
  split_ifs <;> rfl

lemma out_loggedAll (place : Surroundings × LogTarget) (rs : List LogRecord) (c : Console) :
    (loggedAll place rs c).out = c.out := by
  induction rs generalizing c with
  | nil => rfl
  | cons r rest ih => exact (ih _).trans (out_logged _ _ _ _)

lemma loggedAll_append (rs rs' : List LogRecord) :
    loggedAll place (rs ++ rs') c = loggedAll place rs' (loggedAll place rs c) :=
  List.foldl_append

lemma LogsOnly.out_eq {m : Session α} (h : LogsOnly m) (place : Surroundings × LogTarget)
    (c : Console) : (runOn m place c).2.out = c.out := by
  obtain ⟨rs, hrs⟩ := h place c
  rw [hrs, out_loggedAll]

/-! ## Operations -/

lemma logsOnly_of_still {m : Session α} (h : ∀ place c, (runOn m place c).2 = c) : LogsOnly m :=
  fun place c => ⟨[], h place c⟩

lemma logsOnly_pure (a : α) : LogsOnly (pure a) := logsOnly_of_still fun _ _ => rfl

lemma logsOnly_throw (f : Failure) : LogsOnly (throw f : Session α) :=
  logsOnly_of_still fun _ _ => rfl

lemma logsOnly_tree : LogsOnly tree := logsOnly_of_still fun _ _ => rfl

lemma logsOnly_surroundings : LogsOnly surroundings := logsOnly_of_still fun _ _ => rfl

lemma logsOnly_ofExcept (wrap : ε → Failure) (r : Except ε α) : LogsOnly (ofExcept wrap r) :=
  logsOnly_of_still fun place c => by rw [runOn_ofExcept]

lemma logsOnly_log (r : LogRecord) : LogsOnly (log r) := fun _ _ => ⟨[r], rfl⟩

lemma logsOnly_logAll (rs : List LogRecord) : LogsOnly (logAll rs) :=
  fun place c => ⟨rs, by rw [runOn_logAll]; rfl⟩

lemma logsOnly_bind {m : Session α} {next : α → Session β} (hm : LogsOnly m)
    (hnext : ∀ a, LogsOnly (next a)) : LogsOnly (m >>= next) := by
  intro place c
  obtain ⟨rs, hrs⟩ := hm place c
  rw [runOn_bind]
  generalize runOn m place c = ended at hrs
  obtain ⟨result, after⟩ := ended
  obtain rfl : after = loggedAll place rs c := hrs
  cases result with
  | ok a =>
    obtain ⟨rs', hrs'⟩ := hnext a place (loggedAll place rs c)
    exact ⟨rs ++ rs', by rw [loggedAll_append]; exact hrs'⟩
  | error f => exact ⟨rs, rfl⟩

end Session

open Session

variable {place : Surroundings × LogTarget} {c : Console}

/-! ## Opening the log -/

lemma runOn_openLog_none (h : place.2.file = none) : runOn openLog place c = (.ok (), c) := by
  obtain ⟨s, rank, file⟩ := place
  subst h
  rfl

lemma runOn_openLog_some {p : Path} (h : place.2.file = some p) :
    runOn openLog place c =
      runOn (filing .file (Filing.makeDirectories p.parent id) >>= fun _ =>
        filing .file (Filing.step (·.append p []) id)) place c := by
  obtain ⟨s, rank, file⟩ := place
  subst h
  rfl

lemma keepsOut_openLog (place : Surroundings × LogTarget) (c : Console) :
    (runOn openLog place c).2.out = c.out := by
  cases hfile : place.2.file with
  | none => rw [runOn_openLog_none hfile]
  | some p =>
    rw [runOn_openLog_some hfile, runOn_bind, runOn_filing]
    split
    · next hmade =>
      obtain ⟨-, rfl⟩ := Prod.mk.inj hmade
      rw [runOn_filing]
    · next hmade =>
      obtain ⟨-, rfl⟩ := Prod.mk.inj hmade
      rfl

/-! ## Loading -/

lemma logsOnly_loadThresholds (path : Option Text) : LogsOnly (loadThresholds path) := by
  unfold loadThresholds
  cases nonempty path with
  | none =>
    exact logsOnly_bind logsOnly_surroundings fun _ =>
      logsOnly_bind (logsOnly_logAll _) fun _ => logsOnly_pure _
  | some name =>
    refine logsOnly_bind logsOnly_tree fun tree =>
      logsOnly_bind (logsOnly_ofExcept _ _) fun _ => ?_
    cases tree.isFile (Path.ofText name) with
    | true => exact logsOnly_bind logsOnly_surroundings fun _ => logsOnly_ofExcept _ _
    | false => exact logsOnly_throw _

lemma logsOnly_loadTable : LogsOnly loadTable := by
  refine logsOnly_bind logsOnly_surroundings fun s => logsOnly_bind logsOnly_tree fun tree => ?_
  exact logsOnly_bind (logsOnly_ofExcept _ _) fun table =>
    logsOnly_bind (logsOnly_log _) fun _ => logsOnly_pure _

lemma logsOnly_loadValidator (path : Option Text) : LogsOnly (loadValidator path) :=
  logsOnly_bind (logsOnly_loadThresholds path) fun _ =>
    logsOnly_bind logsOnly_loadTable fun _ => logsOnly_pure _

end CommandLine

end StructuredData
