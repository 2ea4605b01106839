import StructuredData.Number.Reading
import StructuredData.Text.Lowercase
import StructuredData.Yaml.Cursor
import StructuredData.Yaml.Kind

/-!
# Reading YAML scalars

A scalar's text is read according to its kind.  A text whose look shows its kind can always be
read, apart from dates that are not in the calendar and integers with too many digits; under a tag
any text can stand.
-/

namespace StructuredData

namespace Yaml

/-- Why a text gives no data: it is no YAML, its nodes nest too deep or the search for the text of
one leads back to it, or some scalar has no value. -/
inductive Fault
  | token (fault : TokenFault)
  | tooDeep
  | badInteger (base : Nat) (text : Text)
  | tooManyDigits (count : Nat)
  | badFloat (text : Text)
  | tooLarge
  | nothingWritten
  | notBool (word : Text)
  | notTimestamp
  | mappingAsTimestamp
  | calendar (fault : Moment.CalendarFault)
  | offset (minutes : Int)
deriving DecidableEq

/-- The text is no YAML. -/
def Fault.malformed : Fault := .token .malformed

namespace Scalar

/-! ## Numbers -/

/-- The text without low lines. -/
def withoutLowLines (t : Text) : Text := t.filter fun c => c ≠ ('_' : CodePoint)

/-- Reads an integer in base ten. -/
def readDecimal (t : Text) : Except Fault Int :=
  match Numeral.readInt t with
  | .ok n => .ok n
  | .error .malformed => .error (.badInteger 10 t)
  | .error (.tooManyDigits count) => .error (.tooManyDigits count)

/-- Reads an integer in base 2, 8 or 16. -/
def readInBase (base : Nat) (t : Text) : Except Fault Int :=
  match Numeral.readIntInBase? base t with
  | some n => .ok n
  | none => .error (.badInteger base t)

/-- Reads an integer without sign: its base is marked by `0b`, `0x` or `0`, and colons separate
parts in base sixty. -/
def readMagnitude (t : Text) : Except Fault Int :=
  if t = "0" then .ok 0
  else if ("0b" : Text).isPrefixOf t then readInBase 2 (t.drop 2)
  else if ("0x" : Text).isPrefixOf t then readInBase 16 (t.drop 2)
  else if t.isEmpty then .error .nothingWritten
  else if t.head? = some ('0' : CodePoint) then readInBase 8 t
  else if t.contains ':' then do
    return (← (Text.splitOn ':' t).mapM readDecimal).foldl (fun n part => 60 * n + part) 0
  else readDecimal t

/-- Splits off a sign; there must be something written. -/
def splitSign (t : Text) : Except Fault (Bool × Text) :=
  if t.isEmpty then .error .nothingWritten else .ok (Numeral.sign t)

/-- Reads an integer. -/
def readInt (t : Text) : Except Fault Int := do
  let (negative, body) ← splitSign (withoutLowLines t)
  let n ← readMagnitude body
  return if negative then -n else n

/-- Reads a decimal number. -/
def readReal (t : Text) : Except Fault Binary64 :=
  match Numeral.readFloat? t with
  | some x => .ok x
  | none => .error (.badFloat t)

/-- Adds up parts in base sixty, the last one first, starting from a sum and a power of sixty. -/
def addSixtieths (sum : Binary64) (power : Nat) : List Binary64 → Except Fault Binary64
  | [] => .ok sum
  | x :: rest =>
    let factor := Binary64.ofInt power
    if factor.isFinite then addSixtieths (sum.add (x.mul factor)) (60 * power) rest
    else .error .tooLarge

/-- The words for an infinity and for not a number. -/
def infinityWord : Text := ".inf"

@[inherit_doc infinityWord]
def nanWord : Text := ".nan"

/-- Reads a floating-point number. -/
def readFloat (t : Text) : Except Fault Binary64 := do
  let (negative, body) ← splitSign (Text.lower (withoutLowLines t))
  if body = nanWord then return .nan
  let x ←
    if body = infinityWord then pure (Binary64.infinity false)
    else if body.contains ':' then do
      addSixtieths (.zero false) 1 (← (Text.splitOn ':' body).mapM readReal).reverse
    else readReal body
  return if negative then x.negate else x

/-- Whether a text is the word for not a number, with a sign or not. -/
def isNanWord (t : Text) : Bool :=
  (splitSign (Text.lower (withoutLowLines t))).toOption.any fun parts => parts.2 = nanWord

/-! ## Other kinds -/

/-- Reads a truth value. -/
def readBool (t : Text) : Except Fault Bool :=
  let word := Text.lower t
  if Kind.isWordOf ["yes", "true", "on"] word then .ok true
  else if Kind.isWordOf ["no", "false", "off"] word then .ok false
  else .error (.notBool word)

/-- A moment that the calendar has. -/
def checked (m : Moment) : Except Fault Moment :=
  match m.fault? with
  | some fault => .error (.calendar fault)
  | none => .ok m

/-- Reads a date or a moment.  An offset is less than a day. -/
def readTimestamp (t : Text) : Except Fault Scalar := do
  match Timestamp.ofText? (Kind.dropFinalNewline t) with
  | none => throw .notTimestamp
  | some ts =>
    if !ts.hasTime then return .date (← checked ts.moment)
    match ts.offset with
    | none => return .moment (← checked ts.moment) none
    | some offset =>
      if 1440 ≤ offset.natAbs then throw (.offset offset)
      return .moment (← checked ts.moment) (some offset)

/-- The six bits that a code point stands for in base 64. -/
def sixBits? (c : CodePoint) : Option Nat :=
  if c.isAsciiUpper then some (c.val - 65)
  else if c.isAsciiLower then some (c.val - 71)
  else if c.isAsciiDigit then some (c.val + 4)
  else if c = '+' then some 62
  else if c = '/' then some 63
  else none

/-- Reads octets in base 64 inside a group of four: so many code points of the group are read,
some bits are left over, and so many fillers have been seen.  Other code points are passed over. -/
def readBase64 (read left fillers : Nat) : Text → Option Octets
  | [] => if read = 0 then some [] else none
  | c :: rest =>
    if c = '=' then
      if 2 ≤ read then
        if 4 ≤ read + fillers + 1 then some [] else readBase64 read left (fillers + 1) rest
      else readBase64 read left fillers rest
    else match sixBits? c with
      | none => readBase64 read left fillers rest
      | some bits =>
        if read = 0 then readBase64 1 bits 0 rest
        else if read = 1 then
          (readBase64 2 (bits % 16) 0 rest).map (UInt8.ofNat (left * 4 + bits / 16) :: ·)
        else if read = 2 then
          (readBase64 3 (bits % 4) 0 rest).map (UInt8.ofNat (left * 16 + bits / 4) :: ·)
        else (readBase64 0 0 0 rest).map (UInt8.ofNat (left * 64 + bits) :: ·)

/-- Reads octets. -/
def readBinary (t : Text) : Except Fault Octets :=
  match readBase64 0 0 0 t with
  | some o => if t.all CodePoint.isAscii then .ok o else .error .malformed
  | none => .error .malformed

/-- Reads a scalar of the given kind. -/
def read (kind : Kind) (t : Text) : Except Fault Scalar :=
  match kind with
  | .null => .ok .null
  | .bool => (readBool t).map .bool
  | .int => (readInt t).map fun n => .number (.int n)
  | .float => (readFloat t).map fun x => .number (.float x)
  | .timestamp => readTimestamp t
  | .binary => (readBinary t).map .octets
  | .string => .ok (.string t)
  | _ => .error .malformed

end Scalar

namespace Fault

/-- The wording of a fault; a text that is malformed has none of its own. -/
def message : Fault → Text
  | .token .malformed => []
  | .token (.badEscape number) =>
    if number < 0x80000000 then "chr() arg not in range(0x110000)"
    else "Python int too large to convert to C int"
  | .token (.tooManyDigits count) => Numeral.tooManyDigitsMessage count
  | .token (.undecodable error) => error.message
  | .tooDeep => "maximum recursion depth exceeded"
  | .badInteger base t =>
    "invalid literal for int() with base " ++ Text.ofNat base ++ ": " ++ (Text.quoted t).take 200
  | .tooManyDigits count => Numeral.tooManyDigitsMessage count
  | .badFloat t => "could not convert string to float: " ++ t.quoted
  | .tooLarge => "int too large to convert to float"
  | .nothingWritten => "string index out of range"
  | .notBool word => word.quoted
  | .notTimestamp => "'NoneType' object has no attribute 'groupdict'"
  | .mappingAsTimestamp => "expected string or bytes-like object, got 'list'"
  | .calendar fault => fault.message
  | .offset minutes =>
    "offset must be a timedelta strictly between -timedelta(hours=24) and " ++
      "timedelta(hours=24), not " ++ Scalar.spanText minutes ++ "."

end Fault

end Yaml

end StructuredData
