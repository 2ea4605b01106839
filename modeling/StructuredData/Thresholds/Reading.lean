import StructuredData.Json.Reader
import StructuredData.Thresholds.Basic

/-!
# Reading thresholds

A setting takes a number, or a text that reads as one.  Whole-number settings also take a float
that is a whole number.  A file sets the thresholds by a JSON object, at the top level or under
`thresholds`, and the first setting that cannot be read is a fault; environment variables set them
one by one, and those that cannot be read are passed over with a warning.
-/

namespace StructuredData

/-- Why a value does not set a threshold. -/
inductive SettingFault
  | notNumber (setting : Setting) (value : Value)
  | notWhole (setting : Setting) (value : Value)
  | badInteger (text : Text)
  | tooManyDigits (count : Nat)
  | badFloat (text : Text)
  | tooLarge

/-- The wording of a fault.  A text that is no integer is shown up to 200 code points. -/
def SettingFault.message : SettingFault → Text
  | .notNumber s v => s.name ++ " must be a number, got " ++ v.shown
  | .notWhole s v => s.name ++ " must be a whole number, got " ++ v.shown
  | .badInteger t => "invalid literal for int() with base 10: " ++ (Text.quoted t).take 200
  | .tooManyDigits count => Numeral.tooManyDigitsMessage count
  | .badFloat t => "could not convert string to float: " ++ Text.quoted t
  | .tooLarge => "int too large to convert to float"

namespace Setting

/-- The whole number that a value gives. -/
def readWhole (s : Setting) : Value → Except SettingFault Int
  | .number (.int n) => .ok n
  | .number (.float x) =>
    match x.toInt? with
    | some n => .ok n
    | none => .error (.notWhole s (.number (.float x)))
  | .string t =>
    match Numeral.readInt t with
    | .ok n => .ok n
    | .error .malformed => .error (.badInteger t)
    | .error (.tooManyDigits count) => .error (.tooManyDigits count)
  | v => .error (.notNumber s v)

/-- The floating-point number that a value gives. -/
def readReal (s : Setting) : Value → Except SettingFault Binary64
  | .number (.int n) =>
    let x := Binary64.ofInt n
    if x.isFinite then .ok x else .error .tooLarge
  | .number (.float x) => .ok x
  | .string t =>
    match Numeral.readFloat? t with
    | some x => .ok x
    | none => .error (.badFloat t)
  | v => .error (.notNumber s v)

end Setting

namespace Thresholds

/-- The thresholds with a setting changed to the number that a value gives. -/
def assign (t : Thresholds) (s : Setting) (v : Value) : Except SettingFault Thresholds :=
  if s.isWhole then return t.setWhole (← s.readWhole v) s
  else return t.setReal (← s.readReal v) s

/-! ## From JSON -/

/-- Why a JSON value gives no thresholds. -/
inductive ShapeFault
  | notObject
  | innerNotObject
  | setting (fault : SettingFault)

/-- The wording of a fault. -/
def ShapeFault.message : ShapeFault → Text
  | .notObject => "thresholds file must contain a JSON object"
  | .innerNotObject => "'thresholds' must be a JSON object"
  | .setting fault => fault.message

/-- Changes the settings that an object has members for, in the order of the settings. -/
def assignMembers (ms : Members) (t : Thresholds) : List Setting → Except SettingFault Thresholds
  | [] => .ok t
  | s :: rest =>
    match ms.get? s.name with
    | none => assignMembers ms t rest
    | some v => do assignMembers ms (← t.assign s v) rest

/-- The thresholds that a JSON value gives. -/
def ofValue (v : Value) : Except ShapeFault Thresholds :=
  match v with
  | .object ms =>
    match (Members.get? "thresholds" ms).getD v with
    | .object inner => (assignMembers inner {} Setting.all).mapError .setting
    | _ => .error .innerNotObject
  | _ => .error .notObject

/-- The JSON value that gives the thresholds again. -/
def toFileValue (t : Thresholds) : Value := .object [("thresholds", t.toValue)]

/-! ## From the environment -/

/-- Environment variables and their values. -/
abbrev Variables := List (Text × Text)

/-- The variable of a setting. -/
def variableName (s : Setting) : Text :=
  "SCHEMACHECK_THRESHOLD_" ++ s.name.map fun c =>
    if c.isAsciiLower then CodePoint.ofNat (c.val - 32) else c

/-- The value of a variable. -/
def valueOf? (vars : Variables) (name : Text) : Option Text :=
  (vars.find? fun v => v.1 = name).map (·.2)

/-- The warning about a variable that is passed over. -/
def ignoredWarning (s : Setting) (value : Text) : Text :=
  "Ignoring " ++ variableName s ++ "=" ++ value.quoted ++ ": not a valid number"

/-- Changes one setting by its variable, if that is set. -/
def assignVariable (vars : Variables) (state : Thresholds × List Text) (s : Setting) :
    Thresholds × List Text :=
  match valueOf? vars (variableName s) with
  | none => state
  | some value =>
    match state.1.assign s (.string value) with
    | .ok t => (t, state.2)
    | .error _ => (state.1, state.2 ++ [ignoredWarning s value])

/-- The thresholds that the environment gives, and the warnings about variables passed over. -/
def ofVariables (vars : Variables) : Thresholds × List Text :=
  Setting.all.foldl (assignVariable vars) ({}, [])

end Thresholds

end StructuredData
