import StructuredData.Json.Value

/-!
# Writing JSON

A value is written on one line, with a blank after each comma and colon, or over several lines
with two more blanks of indentation at each level.  A string is written with the escapes JSON
requires, and where the text is to be pure ASCII also with an escape for every other code point.

Into a file a value is written piece by piece (`pieces`), over several lines.
-/

namespace StructuredData

namespace Json

/-- Numbers in JSON text: the special ones by their names. -/
def writtenNumber : NumberStyle := ⟨"NaN", "Infinity"⟩

/-- One escape of four hexadecimal digits. -/
def unitEscape (n : Nat) : Text := "\\u" ++ Text.hex 4 n

/-- A code point in a string: escaped where JSON, or the wish for ASCII, requires it. -/
def writePoint (ascii : Bool) (c : CodePoint) : Text :=
  if c = '"' then "\\\""
  else if c = '\\' then "\\\\"
  else if c = '\n' then "\\n"
  else if c = '\x0d' then "\\r"
  else if c = '\t' then "\\t"
  else if c = '\x0c' then "\\f"
  else if c = '\x08' then "\\b"
  else if c.val < 0x20 then unitEscape c.val
  else if ascii && 0x7F ≤ c.val then
    if c.val < 0x10000 then unitEscape c.val
    else
      let n := c.val - 0x10000
      unitEscape (0xD800 + n / 0x400) ++ unitEscape (0xDC00 + n % 0x400)
  else [c]

/-- A string between its quotes. -/
def writeString (ascii : Bool) (t : Text) : Text := "\"" ++ t.flatMap (writePoint ascii) ++ "\""

/-- A value that contains no other. -/
def writeScalar (ascii : Bool) : Value → Text
  | .null => "null"
  | .bool b => if b then "true" else "false"
  | .number n => n.text writtenNumber
  | .string t => writeString ascii t
  | .array _ => "[]"
  | .object _ => "\x7b\x7d"

/-! ## On one line -/

mutual

/-- A value on one line. -/
def write (ascii : Bool) : Value → Text
  | .array items => "[" ++ Text.join ", " (writeItems ascii items) ++ "]"
  | .object ms => "\x7b" ++ Text.join ", " (writeMembers ascii ms) ++ "\x7d"
  | v => writeScalar ascii v

/-- The elements of an array, each on one line. -/
def writeItems (ascii : Bool) : List Value → List Text
  | [] => []
  | v :: rest => write ascii v :: writeItems ascii rest

/-- The members of an object, each on one line. -/
def writeMembers (ascii : Bool) : List (Text × Value) → List Text
  | [] => []
  | (name, v) :: rest =>
    (writeString ascii name ++ ": " ++ write ascii v) :: writeMembers ascii rest

end

/-! ## Over several lines -/

/-- The start of a line at the given level. -/
def lineStart (level : Nat) : Text := Text.newline :: List.replicate (2 * level) (' ' : CodePoint)

/-- The parts of a container, each on a line of its own one level further in. -/
def block (opening closing : Text) (level : Nat) (parts : List Text) : Text :=
  if parts.isEmpty then opening ++ closing
  else
    opening ++ lineStart (level + 1) ++ Text.join ("," ++ lineStart (level + 1)) parts ++
      lineStart level ++ closing

mutual

/-- A value over several lines, the first of them already started at the given level. -/
def writeLines (ascii : Bool) (level : Nat) : Value → Text
  | .array items => block "[" "]" level (writeLinesItems ascii (level + 1) items)
  | .object ms => block "\x7b" "\x7d" level (writeLinesMembers ascii (level + 1) ms)
  | v => writeScalar ascii v

/-- The elements of an array, each over several lines. -/
def writeLinesItems (ascii : Bool) (level : Nat) : List Value → List Text
  | [] => []
  | v :: rest => writeLines ascii level v :: writeLinesItems ascii level rest

/-- The members of an object, each over several lines. -/
def writeLinesMembers (ascii : Bool) (level : Nat) : List (Text × Value) → List Text
  | [] => []
  | (name, v) :: rest =>
    (writeString ascii name ++ ": " ++ writeLines ascii level v) ::
      writeLinesMembers ascii level rest

end

/-! ## In pieces -/

/-- The pieces of an element with what stands in front of it: one piece unless the element is a
container. -/
def withFront (front : Text) : Value → List Text → List Text
  | .array _, parts => front :: parts
  | .object _, parts => front :: parts
  | _, parts => [front ++ parts.flatten]

mutual

/-- The pieces of a value over several lines, the first of them already started at the given
level. -/
def pieces (level : Nat) : Value → List Text
  | .array (v :: rest) =>
    itemPieces (level + 1) ("[" ++ lineStart (level + 1)) (v :: rest) ++ [lineStart level, "]"]
  | .object (m :: rest) =>
    ("\x7b" : Text) :: memberPieces (level + 1) (lineStart (level + 1)) (m :: rest) ++
      [lineStart level, "\x7d"]
  | v => [writeScalar false v]

/-- The pieces of the elements of an array, the first of them after the given front. -/
def itemPieces (level : Nat) (front : Text) : List Value → List Text
  | [] => []
  | v :: rest =>
    withFront front v (pieces level v) ++ itemPieces level ("," ++ lineStart level) rest

/-- The pieces of the members of an object, the first of them after the given front. -/
def memberPieces (level : Nat) (front : Text) : List (Text × Value) → List Text
  | [] => []
  | (name, v) :: rest =>
    [front, writeString false name, ": "] ++ pieces level v ++
      memberPieces level ("," ++ lineStart level) rest

end

/-! ## Whole texts -/

/-- A value over several lines, with every code point of a string as itself. -/
def pretty (v : Value) : Text := writeLines false 0 v

/-- A value over several lines, in ASCII. -/
def prettyAscii (v : Value) : Text := writeLines true 0 v

/-- A value on one line, in ASCII. -/
def compactAscii (v : Value) : Text := write true v

end Json

end StructuredData
