import StructuredData.Json.Value
import StructuredData.Moment
import StructuredData.Text.Utf8

/-!
# YAML scalars

The single values a YAML document can hold.  Beside those of JSON there are dates, moments with or
without an offset from universal time, and octets.  `Scalar.shown` and `Scalar.spelled` are the
forms in which messages show a scalar.
-/

namespace StructuredData

namespace Yaml

/-- A single value. -/
inductive Scalar
  | null
  | bool (b : Bool)
  | number (n : Number)
  | string (t : Text)
  | date (m : Moment)
  | moment (m : Moment) (offset : Option Int)
  | octets (o : Octets)
deriving DecidableEq

namespace Scalar

/-! ## Sameness -/

/-- The number that a scalar counts as among keys. -/
def number? : Scalar → Option Number
  | .bool b => some (.int (if b then 1 else 0))
  | .number n => some n
  | _ => none

/-- Moments with an offset are the same when they are the same instant. -/
def sameMoment (m n : Moment) : Option Int → Option Int → Bool
  | none, none => m = n
  | some a, some b => (m.instant : Int) - a * 60000000 = (n.instant : Int) - b * 60000000
  | _, _ => false

/-- Whether two scalars are the same key: numbers and booleans are compared by value, and not a
number is the same as itself. -/
def same (a b : Scalar) : Bool :=
  match a, b with
  | .moment m p, .moment n q => sameMoment m n p q
  | a, b =>
    match a.number?, b.number? with
    | some m, some n => m.same n || m = n
    | _, _ => a = b

/-! ## Shown in messages -/

/-- The sign, hours and minutes of an offset. -/
def offsetText (offset : Int) : Text :=
  let sign : Text := if offset < 0 then "-" else "+"
  sign ++ Moment.two (offset.natAbs / 60) ++ ":" ++ Moment.two (offset.natAbs % 60)

/-- A span of so many minutes, in days and seconds. -/
def spanText (minutes : Int) : Text :=
  let days := Int.fdiv minutes 1440
  let seconds := Int.fmod minutes 1440 * 60
  let parts : List Text :=
    (if days = 0 then [] else ["days=" ++ Text.ofInt days]) ++
      (if seconds = 0 then [] else ["seconds=" ++ Text.ofInt seconds])
  "datetime.timedelta(" ++ (if parts.isEmpty then ("0" : Text) else Text.join ", " parts) ++ ")"

/-- The zone of an offset. -/
def zoneText (offset : Int) : Text :=
  if offset = 0 then "datetime.timezone.utc" else "datetime.timezone(" ++ spanText offset ++ ")"

/-- The parts of a moment; seconds and microseconds are left out at the end when they are zero. -/
def momentParts (m : Moment) : List Text :=
  let least := [m.year, m.month, m.day, m.hour, m.minute]
  let parts :=
    if m.microsecond ≠ 0 then least ++ [m.second, m.microsecond]
    else if m.second ≠ 0 then least ++ [m.second] else least
  parts.map Text.ofNat

/-- One octet between single quotation marks. -/
def octetText (mark : CodePoint) (o : UInt8) : Text :=
  let c := CodePoint.ofNat o.toNat
  if c = mark || c = '\\' then ['\\', c]
  else if c = '\t' then "\\t"
  else if c = '\n' then "\\n"
  else if c.val = 13 then "\\r"
  else if 32 ≤ c.val && c.val < 127 then [c]
  else "\\x" ++ Text.hex 2 c.val

/-- Octets between quotation marks. -/
def octetsText (o : Octets) : Text :=
  let mark : CodePoint := if o.contains 39 && !o.contains 34 then '"' else '\''
  "b" ++ [mark] ++ o.flatMap (octetText mark) ++ [mark]

/-- The form in which messages show a scalar, texts between quotation marks. -/
def shown : Scalar → Text
  | .null => "None"
  | .bool b => if b then "True" else "False"
  | .number n => n.text Value.shownNumber
  | .string t => t.quoted
  | .date m =>
    "datetime.date(" ++ Text.join ", " ([m.year, m.month, m.day].map Text.ofNat) ++ ")"
  | .moment m offset =>
    let zone : List Text := match offset with
      | some offset => ["tzinfo=" ++ zoneText offset]
      | none => []
    "datetime.datetime(" ++ Text.join ", " (momentParts m ++ zone) ++ ")"
  | .octets o => octetsText o

/-- A scalar as a label: texts, dates and moments bare, anything else as shown. -/
def spelled : Scalar → Text
  | .string t => t
  | .date m => m.isoDate
  | .moment m offset =>
    m.isoDate ++ " " ++ m.isoTime ++ (offset.map offsetText).getD []
  | s => s.shown

end Scalar

end Yaml

end StructuredData
