import Mathlib.Tactic.Common
import StructuredData.CommandLine.Session
import StructuredData.Proofs.Text.Utf8
import StructuredData.Requirement.Reader

/-!
# How a session runs

A session is run on a console in given surroundings: it ends with a result or a failure, and leaves
a console.  Each operation that sessions are built from has one lemma that says how it ends, and
`runOn_bind_eq_ok` and `runOn_bind_eq_error` take a session apart into its steps.
-/

namespace StructuredData

namespace CommandLine

namespace Session

variable {α β : Type} {place : Surroundings × LogTarget} {c c' : Console}

/-- How a session ends in some surroundings, and the console that it leaves. -/
def runOn (m : Session α) (place : Surroundings × LogTarget) (c : Console) :
    Except Failure α × Console :=
  (m.run place).run.run c

/-! ## One step after another -/

lemma runOn_bind (m : Session α) (next : α → Session β) :
    runOn (m >>= next) place c = match runOn m place c with
      | (.ok a, after) => runOn (next a) place after
      | (.error f, after) => (.error f, after) := by
  have hstep : runOn (m >>= next) place c = (ExceptT.bindCont (fun a => next a place)
      (runOn m place c).1).run (runOn m place c).2 := rfl
  rw [hstep]
  cases runOn m place c with
  | mk result after => cases result <;> rfl

lemma runOn_bind_of_ok {m : Session α} {next : α → Session β} {a : α}
    (h : runOn m place c = (.ok a, c')) :
    runOn (m >>= next) place c = runOn (next a) place c' := by
  rw [runOn_bind, h]

lemma runOn_bind_eq_ok {m : Session α} {next : α → Session β} {b : β} :
    runOn (m >>= next) place c = (.ok b, c') ↔
      ∃ a after, runOn m place c = (.ok a, after) ∧ runOn (next a) place after = (.ok b, c') := by
  rw [runOn_bind]
  cases runOn m place c with
  | mk result after => cases result <;> simp

lemma runOn_bind_eq_error {m : Session α} {next : α → Session β} {f : Failure} :
    runOn (m >>= next) place c = (.error f, c') ↔
      runOn m place c = (.error f, c') ∨
      ∃ a after, runOn m place c = (.ok a, after) ∧
        runOn (next a) place after = (.error f, c') := by
  rw [runOn_bind]
  cases runOn m place c with
  | mk result after => cases result <;> simp

lemma runOn_tryCatch (m : Session α) (handler : Failure → Session α) :
    runOn (tryCatch m handler) place c = match runOn m place c with
      | (.ok a, after) => (.ok a, after)
      | (.error f, after) => runOn (handler f) place after := by
  unfold runOn
  simp only [tryCatch, tryCatchThe, MonadExceptOf.tryCatch, ReaderT.run, ExceptT.run, StateT.run,
    ExceptT.tryCatch, ExceptT.mk, bind, StateT.bind]
  cases m place c with
  | mk result after => cases result <;> rfl

/-! ## Sessions with one result -/

/-- Whenever the session ends with a result, it is the given one. -/
def OnlyResult (m : Session α) (a : α) : Prop :=
  ∀ place c c' b, runOn m place c = (.ok b, c') → b = a

lemma onlyResult_pure (a : α) : OnlyResult (pure a) a := by
  intro place c c' b h
  cases h
  rfl

lemma onlyResult_bind {m : Session α} {next : α → Session β} {b : β}
    (h : ∀ a, OnlyResult (next a) b) : OnlyResult (m >>= next) b := by
  intro place c c' b' hrun
  obtain ⟨a, after, -, hnext⟩ := runOn_bind_eq_ok.mp hrun
  exact h a _ _ _ _ hnext

/-! ## Operations -/

@[simp] lemma runOn_tree : runOn tree place c = (.ok c.tree, c) := rfl

@[simp] lemma runOn_surroundings : runOn surroundings place c = (.ok place.1, c) := rfl

lemma runOn_ofExcept {ε : Type} (wrap : ε → Failure) (r : Except ε α) :
    runOn (ofExcept wrap r) place c = (r.mapError wrap, c) := by
  cases r <;> rfl

lemma runOn_ofExcept_eq_ok {ε : Type} {wrap : ε → Failure} {r : Except ε α} {a : α} :
    runOn (ofExcept wrap r) place c = (.ok a, c') ↔ r = .ok a ∧ c' = c := by
  cases r <;> simp [runOn_ofExcept, Except.mapError, eq_comm]

lemma runOn_ofExcept_eq_error {ε : Type} {wrap : ε → Failure} {r : Except ε α} {f : Failure} :
    runOn (ofExcept wrap r) place c = (.error f, c') ↔
      (∃ fault, r = .error fault ∧ f = wrap fault) ∧ c' = c := by
  cases r <;> simp [runOn_ofExcept, Except.mapError, eq_comm]

lemma runOn_filing {ε : Type} (wrap : ε → Failure) (work : Filing ε α) :
    runOn (filing wrap work) place c =
      ((work.on c.tree).1.mapError wrap, { c with tree := (work.on c.tree).2 }) := by
  have hstep : runOn (filing wrap work) place c = runOn (ofExcept wrap (work.on c.tree).1) place
      { c with tree := (work.on c.tree).2 } := rfl
  rw [hstep, runOn_ofExcept]

/-- A text that can be encoded is written to the standard output as a whole. -/
lemma runOn_write_of_encodable {t : Text} (ht : ∀ c ∈ t, c.isSurrogate = false) :
    runOn (write t) place c = (.ok (), { c with out := c.out ++ t }) := by
  unfold write
  rw [Utf8.encode_of ht]
  rfl

lemma runOn_write_of_unencodable {t : Text} {e : Utf8.EncodeError} (ht : Utf8.encode t = .error e) :
    runOn (write t) place c = (.error (.unencodable e), c) := by
  unfold write
  rw [ht]
  rfl

/-- A text is written, or the standard output stays as it is. -/
lemma runOn_write (t : Text) (place : Surroundings × LogTarget) (c : Console) :
    runOn (write t) place c = (.ok (), { c with out := c.out ++ t }) ∨
      ∃ e, runOn (write t) place c = (.error (.unencodable e), c) := by
  cases ht : Utf8.encode t with
  | ok octets => exact .inl (runOn_write_of_encodable (Utf8.encode_eq_ok_iff.mp ht).1)
  | error e => exact .inr ⟨e, runOn_write_of_unencodable ht⟩

lemma runOn_log (r : LogRecord) :
    runOn (log r) place c = (.ok (), logged place.2 place.1.logTime r c) := rfl

/-- Log records can always be made. -/
lemma runOn_logAll (rs : List LogRecord) :
    runOn (logAll rs) place c =
      (.ok (), rs.foldl (fun c r => logged place.2 place.1.logTime r c) c) := by
  induction rs generalizing c with
  | nil => rfl
  | cons r rest ih =>
    have hcons : logAll (r :: rest) = (log r >>= fun _ => logAll rest) := rfl
    rw [hcons, runOn_bind, runOn_log]
    exact ih

end Session

/-- Surroundings in which nothing is set, and of the thousand calls that may be open at once twenty
are at the caller's. -/
def bareSurroundings : Surroundings where
  environment := []
  settings := {}
  now := ⟨2025, 1, 2, 3, 4, 5, 0⟩
  logTime := "now"
  depths := ⟨972, 968, 988, 971⟩
  batchDepth := 972
  thresholdsDepth := 970
  yaml := RequirementTable.yamlReader

end CommandLine

end StructuredData
