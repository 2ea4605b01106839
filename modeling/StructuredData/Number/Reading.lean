import StructuredData.Number.Basic
import StructuredData.Text.Blank
import StructuredData.Text.Digit

/-!
# Reading numbers from text

Settings and some properties hold numbers as text.  The digits may be those of any script, blanks
around the number are passed over (the information separators are not among them), and a single
low line may stand between two digits.  Integers of more than 4300 digits are refused.
-/

namespace StructuredData

/-! ## Digits -/

/-- The number that a row of digit values writes in base ten. -/
def ofDigitValues (ds : List Nat) : Nat := ds.foldl (fun n d => 10 * n + d) 0

/-- The number that a row of the digits `0` to `9` writes. -/
def Text.digitsValue (t : Text) : Nat := ofDigitValues (t.map fun c => c.val - 48)

/-- The most digits an integer may be written with. -/
def maxIntegerDigits : Nat := 4300

/-- `± whole.fraction · 10 ^ exponent` from its rows of digits. -/
def Binary64.ofDigitRows (negative : Bool) (whole fraction : Text) (exponent : Int) : Binary64 :=
  let row := whole ++ fraction
  Binary64.ofDecimal negative row.digitsValue row.length (exponent - fraction.length)

/-! ## Numerals -/

namespace Numeral

/-- The digits `0` to `9` for those of any script, and a space for white space beyond ASCII. -/
def foldPoint (c : CodePoint) : CodePoint :=
  if c.isAscii then c
  else if c.isBlank then ' '
  else match c.digitValue? with
    | some d => CodePoint.ofNat (48 + d)
    | none => c

/-- Blanks that may surround a number: the space and the controls from tab to carriage return. -/
def isPadding (c : CodePoint) : Bool := c.val = 32 || (9 ≤ c.val && c.val ≤ 13)

/-- A number's text with plain digits and without the blanks around it. -/
def fold (t : Text) : Text := Text.trim isPadding (t.map foldPoint)

/-- Splits off a sign. -/
def sign : Text → Bool × Text
  | [] => (false, [])
  | c :: rest =>
    if c = '-' then (true, rest) else if c = '+' then (false, rest) else (false, c :: rest)

/-- Drops the low lines of a text if each stands between two digits. -/
def dropLowLines? (previous : CodePoint) : Text → Option Text
  | [] => if previous = '_' then none else some []
  | c :: rest =>
    if c = '_' then
      if previous.isAsciiDigit then dropLowLines? c rest else none
    else if previous = '_' && !c.isAsciiDigit then none
    else (dropLowLines? c rest).map (c :: ·)

/-- Why a text is no integer. -/
inductive Fault
  | malformed
  | tooManyDigits (count : Nat)
deriving DecidableEq

/-- The wording for too many digits, with what is said about their number. -/
def limitMessage (remark : Text) : Text :=
  "Exceeds the limit (" ++ Text.ofNat maxIntegerDigits ++
    " digits) for integer string conversion" ++ remark ++
    "; use sys.set_int_max_str_digits() to increase the limit"

/-- The wording for a number of digits that is refused. -/
def tooManyDigitsMessage (count : Nat) : Text :=
  limitMessage (": value has " ++ Text.ofNat count ++ " digits")

/-- Whether an integer has more digits than can be written. -/
def isTooLong (n : Int) : Bool := Nat.pow 10 maxIntegerDigits ≤ n.natAbs

/-- The wording for an integer that is too long to be written. -/
def tooLongMessage : Text := limitMessage []

/-- Reads an integer.  Digits are counted before what follows them is looked at. -/
def readInt (t : Text) : Except Fault Int :=
  let (negative, body) := sign (fold t)
  let inRun (c : CodePoint) : Bool := c.isAsciiDigit || c = '_'
  match dropLowLines? ' ' (body.takeWhile inRun) with
  | none => .error .malformed
  | some digits =>
    if maxIntegerDigits < digits.length then .error (.tooManyDigits digits.length)
    else if digits.isEmpty || !(body.dropWhile inRun).isEmpty then .error .malformed
    else .ok (if negative then -(digits.digitsValue : Int) else digits.digitsValue)

/-- The letter that marks a base in front of its digits. -/
def baseMark (base : Nat) : CodePoint :=
  if base = 2 then 'b' else if base = 8 then 'o' else 'x'

/-- The text without the zero and the letter that mark a base. -/
def dropBaseMark (base : Nat) : Text → Text
  | zero :: mark :: rest =>
    if zero = '0' && (mark = baseMark base || mark.val + 32 = (baseMark base).val) then rest
    else zero :: mark :: rest
  | t => t

/-- The number that a row of digits of a base of at most 16 writes, if they are digits of it. -/
def digitsInBase? (base : Nat) (t : Text) : Option Nat :=
  t.foldl (fun n? c => do
    let d ← c.hexValue?
    if d < base then return base * (← n?) + d else none) (some 0)

/-- Reads an integer in base 2, 8 or 16; the base may be marked once more in front of it. -/
def readIntInBase? (base : Nat) (t : Text) : Option Int :=
  let (negative, body) := sign (fold t)
  let digits := dropBaseMark base body
  if digits.isEmpty then none
  else (digitsInBase? base digits).map fun n => if negative then -(n : Int) else n

/-- Splits an exponent part into its value; nothing may follow it. -/
def exponent? : Text → Option Int
  | [] => some 0
  | c :: rest =>
    if c = 'e' || c = 'E' then
      let (negative, digits) := sign rest
      if digits.isEmpty || !digits.all CodePoint.isAsciiDigit then none
      else some (if negative then -(digits.digitsValue : Int) else digits.digitsValue)
    else none

/-- Reads digits with an optional point and exponent; at least one digit stands before the
exponent. -/
def decimal? (negative : Bool) (t : Text) : Option Binary64 :=
  let whole := t.takeWhile CodePoint.isAsciiDigit
  let rest := t.dropWhile CodePoint.isAsciiDigit
  let (fraction, tail) :=
    match rest with
    | [] => ([], [])
    | c :: after =>
      if c = '.' then
        (after.takeWhile CodePoint.isAsciiDigit, after.dropWhile CodePoint.isAsciiDigit)
      else ([], rest)
  if whole.isEmpty && fraction.isEmpty then none
  else (exponent? tail).map fun e => Binary64.ofDigitRows negative whole fraction e

/-- A letter `A` to `Z` in small, anything else as it is. -/
def smallAscii (c : CodePoint) : CodePoint :=
  if c.isAsciiUpper then CodePoint.ofNat (c.val + 32) else c

/-- Reads a floating-point number: a decimal, an infinity, or not a number. -/
def readFloat? (t : Text) : Option Binary64 :=
  match dropLowLines? ' ' (fold t) with
  | none => none
  | some body =>
    let (negative, magnitude) := sign body
    let word := magnitude.map smallAscii
    if word = "inf" ∨ word = "infinity" then some (.infinity negative)
    else if word = "nan" then some .nan
    else decimal? negative magnitude

end Numeral

end StructuredData
