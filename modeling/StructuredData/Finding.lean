import StructuredData.Text.Basic

/-!
# Findings

A finding is one observation about a document or a page: its severity, a message, and where they
help the place in the document and a suggestion.  Findings are kept in three lists, one for each
severity, in the order in which they were made.

Every finding costs points of a score that starts at 100 and does not fall below zero.
-/

namespace StructuredData

/-- How serious a finding is. -/
inductive Severity
  | error
  | warning
  | info
deriving DecidableEq

/-- The word for a severity. -/
def Severity.name : Severity → Text
  | .error => "error"
  | .warning => "warning"
  | .info => "info"

/-- The word for a severity in capitals. -/
def Severity.heading : Severity → Text
  | .error => "ERROR"
  | .warning => "WARNING"
  | .info => "INFO"

/-- One observation. -/
structure Finding where
  severity : Severity
  message : Text
  path : Option Text
  suggestion : Option Text
deriving DecidableEq

namespace Finding

/-- An error at a place in the document. -/
def errorAt (path message suggestion : Text) : Finding :=
  ⟨.error, message, some path, some suggestion⟩

/-- A warning at a place in the document. -/
def warningAt (path message suggestion : Text) : Finding :=
  ⟨.warning, message, some path, some suggestion⟩

/-- An error about the document as a whole. -/
def error (message suggestion : Text) : Finding := ⟨.error, message, none, some suggestion⟩

/-- A warning about the document or page as a whole. -/
def warning (message suggestion : Text) : Finding := ⟨.warning, message, none, some suggestion⟩

/-- A note about the document or page as a whole. -/
def note (message suggestion : Text) : Finding := ⟨.info, message, none, some suggestion⟩

end Finding

/-! ## Lists by severity -/

/-- Findings by severity, each list in the order of its findings. -/
structure Findings where
  errors : List Finding
  warnings : List Finding
  info : List Finding
deriving DecidableEq

namespace Findings

/-- No findings. -/
def empty : Findings := ⟨[], [], []⟩

/-- The findings with one more, at the end of the list of its severity. -/
def record (fs : Findings) (f : Finding) : Findings :=
  match f.severity with
  | .error => { fs with errors := fs.errors ++ [f] }
  | .warning => { fs with warnings := fs.warnings ++ [f] }
  | .info => { fs with info := fs.info ++ [f] }

/-- The findings with others after them, list by list. -/
def append (fs gs : Findings) : Findings :=
  ⟨fs.errors ++ gs.errors, fs.warnings ++ gs.warnings, fs.info ++ gs.info⟩

instance : Append Findings := ⟨append⟩

/-- The findings with a row of further ones recorded in turn. -/
def recordAll (fs : Findings) (row : List Finding) : Findings := row.foldl record fs

/-- A row of findings, sorted into the three lists. -/
def ofList (row : List Finding) : Findings := empty.recordAll row

/-- All findings, errors first, then warnings, then notes. -/
def toList (fs : Findings) : List Finding := fs.errors ++ fs.warnings ++ fs.info

/-- A document is valid when it has no errors. -/
def isValid (fs : Findings) : Bool := fs.errors.isEmpty

/-- The list of one severity. -/
def ofSeverity (fs : Findings) : Severity → List Finding
  | .error => fs.errors
  | .warning => fs.warnings
  | .info => fs.info

/-! ## What recording does to each list -/

theorem ofSeverity_record (fs : Findings) (f : Finding) (s : Severity) :
    (fs.record f).ofSeverity s = fs.ofSeverity s ++ if f.severity = s then [f] else [] := by
  cases hf : f.severity <;> cases s <;> simp [record, ofSeverity, hf]

theorem ofSeverity_recordAll (fs : Findings) (row : List Finding) (s : Severity) :
    (fs.recordAll row).ofSeverity s = fs.ofSeverity s ++ row.filter (·.severity = s) := by
  induction row generalizing fs with
  | nil => simp [recordAll]
  | cons f rest ih =>
    have h := ih (fs.record f)
    simp only [recordAll, List.foldl_cons] at h ⊢
    rw [h, ofSeverity_record, List.append_assoc, List.filter_cons]
    by_cases hs : f.severity = s <;> simp [hs]

theorem ofSeverity_ofList (row : List Finding) (s : Severity) :
    (ofList row).ofSeverity s = row.filter (·.severity = s) := by
  rw [ofList, ofSeverity_recordAll]
  cases s <;> rfl

theorem ofSeverity_append (fs gs : Findings) (s : Severity) :
    (fs ++ gs).ofSeverity s = fs.ofSeverity s ++ gs.ofSeverity s := by
  cases s <;> rfl

end Findings

/-! ## Score -/

/-- The score for the given numbers of errors, warnings and notes: 100 points, less 20 for each
error, 5 for each warning and 1 for each note, and at least zero. -/
def scoreOf (errors warnings info : Nat) : Int :=
  max 0 (min 100 (100 - errors * 20 - warnings * 5 - info * 1 : Int))

/-- The score of some findings. -/
def Findings.score (fs : Findings) : Int :=
  scoreOf fs.errors.length fs.warnings.length fs.info.length

end StructuredData
