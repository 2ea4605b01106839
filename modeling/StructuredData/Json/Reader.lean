import StructuredData.Json.Token

/-!
# Reading JSON

A value is read from the tokens of its text.  The first fault in reading order is the one that is
reported, with line, column and position.  Containers may be nested up to a given depth; a text that
nests deeper is refused at the bracket that goes too far.
-/

namespace StructuredData

namespace Json

/-- The two kinds of container. -/
inductive Container
  | array
  | object
deriving DecidableEq

/-- Why a text gives no value, with the position of the fault in the text. -/
inductive Fault
  | malformed (fault : SyntaxFault) (position : Nat)
  | tooManyDigits (count : Nat)
  | tooDeep (container : Container)
deriving DecidableEq

/-- The position of the next token, or the end of the text. -/
def nextPosition (endPosition : Nat) : List PlacedToken → Nat
  | [] => endPosition
  | (p, _) :: _ => p

mutual

/-- Reads a value that nests at most so deep: the value and the tokens after it.  The fuel, which
comes before the depth, is at least the number of tokens. -/
def readValue (endPosition : Nat) :
    Nat → Nat → List PlacedToken → Except Fault (Value × List PlacedToken)
  | 0, _, ts => .error (.malformed .expectingValue (nextPosition endPosition ts))
  | fuel + 1, depth, ts =>
    match ts with
    | (_, .scalar v) :: rest => .ok (v, rest)
    | (_, .string t) :: rest => .ok (.string t, rest)
    | (_, .longInteger count) :: _ => .error (.tooManyDigits count)
    | (_, .badString q fault) :: _ => .error (.malformed fault q)
    | (_, .openArray) :: rest =>
      match depth with
      | 0 => .error (.tooDeep .array)
      | depth + 1 =>
        match rest with
        | (_, .closeArray) :: rest => .ok (.array [], rest)
        | _ => do
          let (items, rest) ← readItems endPosition fuel depth rest
          .ok (.array items, rest)
    | (_, .openObject) :: rest =>
      match depth with
      | 0 => .error (.tooDeep .object)
      | depth + 1 =>
        match rest with
        | (_, .closeObject) :: rest => .ok (.object [], rest)
        | _ => do
          let (ms, rest) ← readMembers endPosition fuel depth rest
          .ok (.object (Members.ofList ms), rest)
    | _ => .error (.malformed .expectingValue (nextPosition endPosition ts))

/-- Reads the elements of an array and its closing bracket. -/
def readItems (endPosition : Nat) :
    Nat → Nat → List PlacedToken → Except Fault (List Value × List PlacedToken)
  | 0, _, ts => .error (.malformed .expectingValue (nextPosition endPosition ts))
  | fuel + 1, depth, ts => do
    let (v, rest) ← readValue endPosition fuel depth ts
    match rest with
    | (_, .closeArray) :: rest => .ok ([v], rest)
    | (_, .comma) :: rest => do
      let (vs, rest) ← readItems endPosition fuel depth rest
      .ok (v :: vs, rest)
    | _ => .error (.malformed .expectingComma (nextPosition endPosition rest))

/-- Reads the members of an object and its closing brace. -/
def readMembers (endPosition : Nat) :
    Nat → Nat → List PlacedToken → Except Fault (List (Text × Value) × List PlacedToken)
  | 0, _, ts => .error (.malformed .expectingName (nextPosition endPosition ts))
  | fuel + 1, depth, ts =>
    match ts with
    | (_, .badString q fault) :: _ => .error (.malformed fault q)
    | (_, .string name) :: (_, .colon) :: rest => do
      let (v, rest) ← readValue endPosition fuel depth rest
      match rest with
      | (_, .closeObject) :: rest => .ok ([(name, v)], rest)
      | (_, .comma) :: rest => do
        let (ms, rest) ← readMembers endPosition fuel depth rest
        .ok ((name, v) :: ms, rest)
      | _ => .error (.malformed .expectingComma (nextPosition endPosition rest))
    | (_, .string _) :: rest => .error (.malformed .expectingColon (nextPosition endPosition rest))
    | _ => .error (.malformed .expectingName (nextPosition endPosition ts))

end

/-- The value that a text writes, nested at most so deep.  A byte order mark is refused before
anything else, and nothing but blanks may follow the value. -/
def read (depth : Nat) (t : Text) : Except Fault Value :=
  if t.head?.any (·.val = 0xFEFF) then .error (.malformed .byteOrderMark 0)
  else do
    let ts := tokens t
    let (v, rest) ← readValue t.length (2 * ts.length + 1) depth ts
    match rest with
    | [] => .ok v
    | (p, _) :: _ => .error (.malformed .extraData p)

/-- The value that a text writes, if it writes one that nests at most so deep. -/
def read? (depth : Nat) (t : Text) : Option Value := (read depth t).toOption

/-! ## Wording -/

/-- The wording of a fault in the form. -/
def SyntaxFault.message : SyntaxFault → Text
  | .expectingValue => "Expecting value"
  | .expectingName => "Expecting property name enclosed in double quotes"
  | .expectingColon => "Expecting ':' delimiter"
  | .expectingComma => "Expecting ',' delimiter"
  | .extraData => "Extra data"
  | .unterminatedString => "Unterminated string starting at"
  | .controlCharacter => "Invalid control character at"
  | .escape => "Invalid \\escape"
  | .unicodeEscape => "Invalid \\uXXXX escape"
  | .byteOrderMark => "Unexpected UTF-8 BOM (decode using utf-8-sig)"

/-- The line and the column of a position, both counted from one. -/
def lineColumn (t : Text) (position : Nat) : Nat × Nat :=
  let before := t.take position
  ((before.filter (· = Text.newline)).length + 1,
    (before.reverse.takeWhile (· ≠ Text.newline)).length + 1)

/-- The wording of a fault in the given text. -/
def Fault.message (t : Text) : Fault → Text
  | .malformed fault position =>
    let (line, column) := lineColumn t position
    fault.message ++ ": line " ++ Text.ofNat line ++ " column " ++ Text.ofNat column ++
      " (char " ++ Text.ofNat position ++ ")"
  | .tooManyDigits count => Numeral.tooManyDigitsMessage count
  | .tooDeep container =>
    let kind : Text := match container with
      | .array => "array"
      | .object => "object"
    "maximum recursion depth exceeded while decoding a JSON " ++ kind ++ " from a unicode string"

end Json

end StructuredData
