import StructuredData.Text.Utf8

/-!
# The place in a YAML text

A text is read code point by code point, with the line and the column of each known.  The part of
a file that can be read may end where the file goes on; then looking at the place behind it is the
fault that keeps the rest from being read.  At the end of the whole text stands the null character,
which occurs nowhere else.

`Scan` is reading from a place on, with the fault that ends it.
-/

namespace StructuredData

namespace Yaml

/-- Why a text is no YAML: its form, an escape whose number no code point has, a version with too
many digits, or octets that are no text. -/
inductive TokenFault
  | malformed
  | badEscape (number : Nat)
  | tooManyDigits (count : Nat)
  | undecodable (error : Utf8.DecodeError)
deriving DecidableEq

/-- The part of a text that can be read, and the fault behind it if that is not the whole text. -/
structure Source where
  text : Text
  cut : Option TokenFault

/-- The rest of a text with its length, the fault behind it, and the place at which it starts. -/
structure Cursor where
  rest : Text
  left : Nat
  cut : Option TokenFault
  index : Nat
  line : Nat
  column : Nat

/-! ## Classes of code points -/

/-- Line breaks. -/
def isBreak (c : CodePoint) : Bool :=
  c.val = 10 || c.val = 13 || c.val = 0x85 || c.val = 0x2028 || c.val = 0x2029

/-- Line breaks and the end of the text, which reads as the null character. -/
def endsLine (c : CodePoint) : Bool := c.val = 0 || isBreak c

/-- Spaces, line breaks and the end of the text. -/
def endsPart (c : CodePoint) : Bool := endsLine c || c.val = 32

/-- Spaces and tabs. -/
def isGap (c : CodePoint) : Bool := c.val = 32 || c.val = 9

/-- Blanks, line breaks and the end of the text. -/
def endsWord (c : CodePoint) : Bool := endsLine c || isGap c

/-- The space. -/
def isSpace (c : CodePoint) : Bool := c.val = 32

/-- One of the given characters. -/
def oneOf (s : String) (c : CodePoint) : Bool := s.toList.any fun d => CodePoint.ofChar d = c

/-- Letters, digits, the hyphen and the low line. -/
def isWordPoint (c : CodePoint) : Bool :=
  c.isAsciiDigit || c.isAsciiLower || c.isAsciiUpper || c = '-' || c = '_'

namespace Cursor

/-- The start of a text. -/
def start (s : Source) : Cursor := ⟨s.text, s.text.length, s.cut, 0, 0, 0⟩

/-- One code point further.  A carriage return before a line feed does not end the line. -/
def next (c : Cursor) : Cursor :=
  match c.rest with
  | [] => c
  | d :: rest =>
    let c := { c with rest := rest, left := c.left - 1, index := c.index + 1 }
    if isBreak d && !(d.val = 13 && rest.head?.any (·.val = 10)) then
      { c with line := c.line + 1, column := 0 }
    else if d.val = 0xFEFF then c
    else { c with column := c.column + 1 }

/-- So many code points further. -/
def skip (c : Cursor) : Nat → Cursor
  | 0 => c
  | n + 1 => c.next.skip n

end Cursor

/-! ## Reading from a place on -/

/-- Reading from a place on. -/
abbrev Scan := StateT Cursor (Except TokenFault)

namespace Scan

/-- The text is no YAML. -/
def fail {α : Type} : Scan α := throw .malformed

/-- The code point so many places ahead, the null character at the end of the text. -/
def peek (ahead : Nat) : Scan CodePoint := do
  let c ← get
  match c.rest[ahead]?, c.cut with
  | some d, _ => return d
  | none, none => return '\x00'
  | none, some fault => throw fault

/-- The next code point. -/
def here : Scan CodePoint := peek 0

/-- The next few code points, fewer at the end of the text. -/
def head (n : Nat) : Scan Text := do
  let c ← get
  let t := c.rest.take n
  match c.cut with
  | some fault => if t.length < n then throw fault else return t
  | none => return t

/-- Passes over so many code points, up to a place that can be read. -/
def skip (n : Nat) : Scan Unit := do
  modify (·.skip n)
  let _ ← here

/-- Reads the code points from here on that satisfy the test. -/
def takeWhile (p : CodePoint → Bool) : Scan Text := do
  let t := (← get).rest.takeWhile p
  skip t.length
  return t

/-- Passes over the code points from here on that satisfy the test. -/
def dropWhile (p : CodePoint → Bool) : Scan Unit := do let _ ← takeWhile p

/-- The number of code points from here on. -/
def left : Scan Nat := return (← get).left

/-- The column of the place. -/
def column : Scan Nat := return (← get).column

/-- Reads a line break, if there is one: what it stands for. -/
def lineBreak : Scan Text := do
  let d ← here
  if !isBreak d then return []
  let t ← head 2
  skip (if t = [('\x0d' : CodePoint), Text.newline] then 2 else 1)
  return if d.val = 0x2028 || d.val = 0x2029 then [d] else [Text.newline]

/-- Whether one of the document markers stands here that are made of the given characters. -/
def atMarker (marks : List CodePoint) : Scan Bool := do
  let t ← head 3
  if marks.any fun mark => t = [mark, mark, mark] then return endsWord (← peek 3)
  else return false

/-- Whether either document marker stands here. -/
def atAnyMarker : Scan Bool := atMarker ['-', '.']

/-- Passes over the rest of a line that must be blank or a comment, and its line break. -/
def ignoredLine : Scan Unit := do
  dropWhile isSpace
  if (← here) = '#' then dropWhile fun d => !endsLine d
  if endsLine (← here) then let _ ← lineBreak else fail

/-- The number that so many hexadecimal digits write; they stay. -/
def peekHex (width : Nat) : Scan Nat :=
  (List.range width).foldlM (fun n k => do
    match (← peek k).hexValue? with
    | some d => return 16 * n + d
    | none => fail) 0

end Scan

end Yaml

end StructuredData
