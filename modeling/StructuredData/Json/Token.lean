import StructuredData.Json.Value
import StructuredData.Number.Reading

/-!
# JSON tokens

The text of a JSON value is cut into tokens, each with the position of its first code point.  What
is no token is one too: a string that goes wrong carries its fault, an integer of too many digits
their count, and any other code point is a stray.  So a fault is reported when the reader reaches
it, and not before an earlier one.
-/

namespace StructuredData

namespace Json

/-- What can be wrong with the form of a JSON text. -/
inductive SyntaxFault
  | expectingValue
  | expectingName
  | expectingColon
  | expectingComma
  | extraData
  | unterminatedString
  | controlCharacter
  | escape
  | unicodeEscape
  | byteOrderMark
deriving DecidableEq

/-- A token of a JSON text. -/
inductive Token
  | openArray
  | closeArray
  | openObject
  | closeObject
  | colon
  | comma
  | scalar (v : Value)
  | longInteger (digits : Nat)
  | string (t : Text)
  | badString (position : Nat) (fault : SyntaxFault)
  | stray

/-- A token and the position of its first code point. -/
abbrev PlacedToken := Nat × Token

/-- The blanks between tokens. -/
def isSpace (c : CodePoint) : Bool := c.val = 32 || c.val = 9 || c.val = 10 || c.val = 13

/-! ## Strings -/

/-- The code point of an escape of one letter. -/
def simpleEscape? (c : CodePoint) : Option CodePoint :=
  if c = '"' || c = '\\' || c = '/' then some c
  else if c = 'b' then some '\x08'
  else if c = 'f' then some '\x0c'
  else if c = 'n' then some '\n'
  else if c = 'r' then some '\x0d'
  else if c = 't' then some '\t'
  else none

/-- The number that four hexadecimal digits write. -/
def hexUnit? (a b c d : CodePoint) : Option Nat := do
  return ((← a.hexValue?) * 16 + (← b.hexValue?)) * 256 + (← c.hexValue?) * 16 + (← d.hexValue?)

/-- First halves of surrogate pairs. -/
def isHighUnit (n : Nat) : Bool := 0xD800 ≤ n && n ≤ 0xDBFF

/-- Second halves of surrogate pairs. -/
def isLowUnit (n : Nat) : Bool := 0xDC00 ≤ n && n ≤ 0xDFFF

/-- The code point of a surrogate pair. -/
def joinUnits (high low : Nat) : CodePoint :=
  CodePoint.ofNat (0x10000 + (high - 0xD800) * 0x400 + (low - 0xDC00))

/-- The next escape, if it is the second half of a surrogate pair and has something after it. -/
def lowEscape? : Text → Option Nat
  | s :: u :: a :: b :: c :: d :: _ :: _ =>
    if s = '\\' && u = 'u' then (hexUnit? a b c d).filter isLowUnit else none
  | _ => none

/-- The rest of a string after its opening quote at `opening`: its text, what follows the closing
quote, and the position of that.  An escape of four hexadecimal digits must have something after
it. -/
def readString (opening : Nat) : Nat → Nat → Text → Except (Nat × SyntaxFault) (Text × Text × Nat)
  | 0, _, _ => .error (opening, .unterminatedString)
  | _, _, [] => .error (opening, .unterminatedString)
  | fuel + 1, p, c :: rest =>
    let andThen (here : CodePoint) (used : Nat) (after : Text) := do
      let (t, tail, q) ← readString opening fuel (p + used) after
      .ok (here :: t, tail, q)
    if c = '"' then .ok ([], rest, p + 1)
    else if c = '\\' then
      match rest with
      | [] => .error (opening, .unterminatedString)
      | e :: after =>
        if e = 'u' then
          match after with
          | h₁ :: h₂ :: h₃ :: h₄ :: x :: after =>
            match hexUnit? h₁ h₂ h₃ h₄ with
            | none => .error (p + 1, .unicodeEscape)
            | some unit =>
              match (if isHighUnit unit then lowEscape? (x :: after) else none) with
              | some low => andThen (joinUnits unit low) 12 ((x :: after).drop 6)
              | none => andThen (CodePoint.ofNat unit) 6 (x :: after)
          | _ => .error (p + 1, .unicodeEscape)
        else match simpleEscape? e with
          | some d => andThen d 2 after
          | none => .error (p, .escape)
    else if c.val < 0x20 then .error (p, .controlCharacter)
    else andThen c 1 rest

/-! ## Numbers and words -/

/-- The exponent part at the head of a text, with its length. -/
def exponentPart (t : Text) : Option (Int × Nat) :=
  match t with
  | [] => none
  | c :: rest =>
    if c = 'e' || c = 'E' then
      let (negative, body) := Numeral.sign rest
      let digits := body.takeWhile CodePoint.isAsciiDigit
      if digits.isEmpty then none
      else
        let value : Int := Text.digitsValue digits
        some (if negative then -value else value, 1 + (rest.length - body.length) + digits.length)
    else none

/-- The fraction part at the head of a text: the digits after the point. -/
def fractionPart (t : Text) : Text :=
  match t with
  | [] => []
  | c :: rest => if c = '.' then rest.takeWhile CodePoint.isAsciiDigit else []

/-- The number at the head of a text and its length, if there is one: no leading zero, and a
fraction or an exponent only with digits. -/
def number? (t : Text) : Option (Token × Nat) :=
  let negative := t.head? = some ('-' : CodePoint)
  let body := if negative then t.drop 1 else t
  let whole :=
    if body.head? = some ('0' : CodePoint) then body.take 1
    else body.takeWhile CodePoint.isAsciiDigit
  if whole.isEmpty then none
  else
    let signLength := if negative then 1 else 0
    let rest := body.drop whole.length
    let fraction := fractionPart rest
    let fractionLength := if fraction.isEmpty then 0 else 1 + fraction.length
    let exponent := exponentPart (rest.drop fractionLength)
    let exponentLength := (exponent.map (·.2)).getD 0
    let length := signLength + whole.length + fractionLength + exponentLength
    if fraction.isEmpty && exponent.isNone then
      if maxIntegerDigits < whole.length then some (.longInteger whole.length, length)
      else
        let n : Int := Text.digitsValue whole
        some (.scalar (.ofInt (if negative then -n else n)), length)
    else
      let x := Binary64.ofDigitRows negative whole fraction ((exponent.map (·.1)).getD 0)
      some (.scalar (.number (.float x)), length)

/-- The words that stand for a value. -/
def valueWords : List (Text × Value) :=
  [("null", .null), ("true", .bool true), ("false", .bool false),
    ("NaN", .number (.float .nan)), ("Infinity", .number (.float (.infinity false))),
    ("-Infinity", .number (.float (.infinity true)))]

/-- The word at the head of a text, and its length. -/
def word? (t : Text) : Option (Token × Nat) :=
  (valueWords.find? fun w => w.1.isPrefixOf t).map fun w => (.scalar w.2, w.1.length)

/-- The token of a punctuation mark. -/
def mark? (c : CodePoint) : Option Token :=
  if c = '[' then some .openArray
  else if c = ']' then some .closeArray
  else if c = '\x7b' then some .openObject
  else if c = '\x7d' then some .closeObject
  else if c = ':' then some .colon
  else if c = ',' then some .comma
  else none

/-! ## Tokens of a text -/

/-- The tokens of a text that starts at the given position, up to the first code point that starts
none.  The fuel is at least the length of the text. -/
def tokensFrom : Nat → Nat → Text → List PlacedToken
  | 0, _, _ => []
  | _, _, [] => []
  | fuel + 1, p, c :: rest =>
    if isSpace c then tokensFrom fuel (p + 1) rest
    else match mark? c with
      | some token => (p, token) :: tokensFrom fuel (p + 1) rest
      | none =>
        if c = '"' then
          match readString p (fuel + 1) (p + 1) rest with
          | .ok (t, tail, q) => (p, .string t) :: tokensFrom fuel q tail
          | .error (q, fault) => [(p, .badString q fault)]
        else match word? (c :: rest) <|> number? (c :: rest) with
          | some (token, length) =>
            (p, token) :: tokensFrom fuel (p + length) ((c :: rest).drop length)
          | none => [(p, .stray)]

/-- The tokens of a text. -/
def tokens (t : Text) : List PlacedToken := tokensFrom t.length 0 t

end Json

end StructuredData
