import StructuredData.Text.Basic

/-!
# Log records

What happens on the way to an answer is told in log records, each with a level and the part of the
program that it comes from.  A log shows the records of its own level and above.
-/

namespace StructuredData

/-- How important a record is. -/
inductive LogLevel
  | debug
  | info
  | warning
deriving DecidableEq

namespace LogLevel

/-- The number by which levels are compared. -/
def rank : LogLevel → Nat
  | .debug => 10
  | .info => 20
  | .warning => 30

/-- The word for a level. -/
def name : LogLevel → Text
  | .debug => "DEBUG"
  | .info => "INFO"
  | .warning => "WARNING"

/-- The ranks by name, of which several have no records here. -/
def ranks : List (Text × Nat) :=
  [("CRITICAL", 50), ("FATAL", 50), ("ERROR", 40), ("WARN", 30), ("WARNING", 30), ("INFO", 20),
    ("DEBUG", 10), ("NOTSET", 0)]

/-- The capital form of a code point if that is made of letters `A` to `Z`: besides the small
letters themselves the dotless I, the long S, the sharp S and the ligatures have one. -/
def capitalForm (c : CodePoint) : Text :=
  if c.isAsciiLower then [CodePoint.ofNat (c.val - 32)]
  else if c.val = 0xDF then "SS"
  else if c.val = 0x131 then "I"
  else if c.val = 0x17F then "S"
  else if c.val = 0xFB00 then "FF"
  else if c.val = 0xFB01 then "FI"
  else if c.val = 0xFB02 then "FL"
  else if c.val = 0xFB03 then "FFI"
  else if c.val = 0xFB04 then "FFL"
  else if c.val = 0xFB05 || c.val = 0xFB06 then "ST"
  else [c]

/-- The rank that a level's name has in letters of any case; an unknown name counts as `INFO`. -/
def rankOfName (name : Text) : Nat :=
  match ranks.find? fun entry => entry.1 = name.flatMap capitalForm with
  | some (_, rank) => rank
  | none => LogLevel.info.rank

end LogLevel

/-- One record of a log. -/
structure LogRecord where
  source : Text
  level : LogLevel
  message : Text
deriving DecidableEq

namespace LogRecord

/-- The line for a record that is made at the given time. -/
def line (time : Text) (r : LogRecord) : Text :=
  time ++ " - schemacheck." ++ r.source ++ " - " ++ r.level.name ++ " - " ++ r.message ++ "\n"

end LogRecord

end StructuredData
