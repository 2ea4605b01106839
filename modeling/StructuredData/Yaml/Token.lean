import StructuredData.Yaml.Lexeme

/-!
# YAML tokens

The text of a YAML document is cut into tokens.  Indentation becomes tokens of its own: a block
collection starts where a line goes further in than the lines around it, and ends where a line
comes back out.

A mapping key in front of a colon is only known to be one when the colon is reached.  So the place
of a possible key is remembered, for one line and at most 1024 code points, and the token that
marks the key is put in there afterwards.

`tokens` gives the tokens of a text up to the first fault that makes it no YAML, and that fault:
those that were settled when the fault was met, which are all that a reader can have seen before it.
-/

namespace StructuredData

namespace Yaml

/-- A token of a YAML text. -/
inductive Token
  | directive (d : Scan.Directive)
  | documentStart
  | documentEnd
  | blockSequenceStart
  | blockMappingStart
  | blockEnd
  | flowSequenceStart
  | flowSequenceEnd
  | flowMappingStart
  | flowMappingEnd
  | key
  | value
  | blockEntry
  | flowEntry
  | alias (name : Text)
  | anchor (name : Text)
  | tag (handle : Option Text) (suffix : Text)
  | scalar (text : Text) (plain : Bool)
  | textEnd
deriving DecidableEq

/-- A token that may turn out to be a mapping key: how many tokens stand before it, whether it must
be one, and where it is. -/
structure PossibleKey where
  level : Nat
  tokensBefore : Nat
  required : Bool
  index : Nat
  line : Nat
  column : Nat

/-- What is known between two tokens: the place, the depth of flow collections, the indentation of
the current block and of those around it, whether a key may come next, the possible keys, and the
tokens so far, the last one first, with their number. -/
structure Lexer where
  cursor : Cursor
  level : Nat
  indent : Int
  indents : List Int
  allowsKey : Bool
  keys : List PossibleKey
  reversed : List Token
  count : Nat

/-- Cutting a text into tokens. -/
abbrev Lexing := StateT Lexer (Except TokenFault)

namespace Lexer

/-- The state at the start of a text. -/
def start (s : Source) : Lexer := ⟨Cursor.start s, 0, -1, [], true, [], [], 0⟩

/-- Whether the place is inside a flow collection. -/
def inFlow (s : Lexer) : Bool := s.level ≠ 0

/-- The tokens before the first possible key: what stands before them can change no more. -/
def settled (s : Lexer) : List Token :=
  s.reversed.reverse.take ((s.keys.map (·.tokensBefore)).foldl min s.count)

/-- One more token. -/
def push (s : Lexer) (token : Token) : Lexer :=
  { s with reversed := token :: s.reversed, count := s.count + 1 }

/-- One more token, at the place where so many tokens stand before it. -/
def insert (s : Lexer) (tokensBefore : Nat) (token : Token) : Lexer :=
  let after := s.count - tokensBefore
  { s with
    reversed := s.reversed.take after ++ token :: s.reversed.drop after
    count := s.count + 1 }

/-- Leaves the blocks that are further in than a column. -/
def leave (s : Lexer) (column : Int) : Lexer :=
  if s.inFlow || s.indent ≤ column then s
  else
    let (closed, left) := s.indents.span fun i => column < i
    { s with
      indent := left.head?.getD (-1)
      indents := left.drop 1
      reversed := List.replicate (closed.length + 1) Token.blockEnd ++ s.reversed
      count := s.count + (closed.length + 1) }

/-- Whether a block starts at a column, and the state inside it. -/
def enter (s : Lexer) (column : Int) : Bool × Lexer :=
  if s.indent < column then (true, { s with indent := column, indents := s.indent :: s.indents })
  else (false, s)

/-- Whether a possible key lies too far back. -/
def isStale (s : Lexer) (k : PossibleKey) : Bool :=
  k.line ≠ s.cursor.line || 1024 < s.cursor.index - k.index

end Lexer

namespace Lexing

open Scan (here peek)

/-! ## Steps -/

/-- Reads from the place on. -/
def scan {α : Type} (work : Scan α) : Lexing α := do
  let (a, c) ← work.run (← get).cursor
  modify fun s => { s with cursor := c }
  return a

/-- The text is no YAML. -/
def fail {α : Type} : Lexing α := throw .malformed

/-- One more token. -/
def emit (token : Token) : Lexing Unit := modify (·.push token)

/-- Says whether a key may come next. -/
def allowKey (allows : Bool) : Lexing Unit := modify fun s => { s with allowsKey := allows }

/-- Forgets the possible keys that satisfy a test, none of which may be required. -/
def dropKeys (test : Lexer → PossibleKey → Bool) : Lexing Unit := do
  let s ← get
  if s.keys.any fun k => test s k && k.required then fail
  set { s with keys := s.keys.filter fun k => !test s k }

/-- Forgets possible keys that lie too far back. -/
def dropStaleKeys : Lexing Unit := dropKeys Lexer.isStale

/-- Forgets the possible key of the current level. -/
def dropKey : Lexing Unit := dropKeys fun s k => k.level = s.level

/-- Remembers that the next token may be a key. -/
def saveKey : Lexing Unit := do
  if !(← get).allowsKey then return
  dropKey
  modify fun s =>
    let k : PossibleKey :=
      ⟨s.level, s.count, !s.inFlow && s.indent = s.cursor.column, s.cursor.index,
        s.cursor.line, s.cursor.column⟩
    { s with keys := k :: s.keys }

/-- Passes over blanks, comments and line breaks. -/
def toNextToken : Nat → Lexing Unit
  | 0 => return
  | fuel + 1 => do
    if (← get).cursor.index = 0 then
      if (← scan here).val = 0xFEFF then scan (Scan.skip 1)
    scan (Scan.dropWhile isSpace)
    if (← scan here) = '#' then scan (Scan.dropWhile fun d => !endsLine d)
    if isBreak (← scan here) then
      let _ ← scan Scan.lineBreak
      if !(← get).inFlow then allowKey true
      toNextToken fuel

/-- A block starts at the current column, unless it is already open. -/
def enterHere (token : Token) : Lexing Unit :=
  modify fun s =>
    match s.enter s.cursor.column with
    | (true, s) => s.push token
    | (false, s) => s

/-! ## Tokens -/

/-- A token of so many code points that ends all blocks: a document marker. -/
def marker (token : Token) : Lexing Unit := do
  modify (·.leave (-1))
  dropKey
  allowKey false
  scan (Scan.skip 3)
  emit token

/-- A directive. -/
def directive : Lexing Unit := do
  modify (·.leave (-1))
  dropKey
  allowKey false
  emit (.directive (← scan Scan.directive))

/-- A token that opens a flow collection. -/
def openFlow (token : Token) : Lexing Unit := do
  saveKey
  modify fun s => { s with level := s.level + 1, allowsKey := true }
  scan (Scan.skip 1)
  emit token

/-- A token that closes a flow collection. -/
def closeFlow (token : Token) : Lexing Unit := do
  if !(← get).inFlow then fail
  dropKey
  modify fun s => { s with level := s.level - 1, allowsKey := false }
  scan (Scan.skip 1)
  emit token

/-- The comma between two parts of a flow collection. -/
def flowEntry : Lexing Unit := do
  allowKey true
  dropKey
  scan (Scan.skip 1)
  emit .flowEntry

/-- An indicator that may start a block: entry, key or value. -/
def indicator (starts token : Token) (allowsAfter : Bool) : Lexing Unit := do
  let s ← get
  if !s.inFlow then
    if !s.allowsKey then fail
    enterHere starts
  allowKey allowsAfter
  dropKey
  scan (Scan.skip 1)
  emit token

/-- The state in which a possible key has turned out to be one: it is marked where it starts. -/
def keyMarked (s : Lexer) (k : PossibleKey) : Lexer :=
  let s := { s with keys := s.keys.filter (·.level ≠ s.level) }.insert k.tokensBefore .key
  if s.inFlow then s
  else match s.enter k.column with
    | (true, s) => s.insert k.tokensBefore .blockMappingStart
    | (false, s) => s

/-- The colon after a key. -/
def value : Lexing Unit := do
  let s ← get
  match s.keys.find? fun k => k.level = s.level with
  | some k =>
    set (keyMarked s k)
    allowKey false
    scan (Scan.skip 1)
    emit .value
  | none => indicator .blockMappingStart .value (!s.inFlow)

/-- A scalar, alias, anchor or tag, which may be a key or stand before one. -/
def word (work : Scan Token) : Lexing Unit := do
  saveKey
  allowKey false
  emit (← scan work)

/-- A plain scalar.  After a line break a key may come next. -/
def plain : Lexing Unit := do
  saveKey
  let s ← get
  let (t, broke) ← scan (Scan.plain s.inFlow (s.indent + 1))
  allowKey broke
  emit (.scalar t true)

/-- A block scalar. -/
def block (folded : Bool) : Lexing Unit := do
  allowKey true
  dropKey
  emit (.scalar (← scan (Scan.blockScalar folded (← get).indent)) false)

/-- Whether an indicator stands alone, as it must in a block. -/
def standsAlone : Lexing Bool := do
  if (← get).inFlow then return true
  return endsWord (← scan (peek 1))

/-- Whether a plain scalar starts with a code point. -/
def startsPlain (d : CodePoint) : Lexing Bool := do
  if !(endsWord d || oneOf "-?:,[]\x7b\x7d#&*!|>'\"%@\x60" d) then return true
  if endsWord (← scan (peek 1)) then return false
  return d = '-' || (!(← get).inFlow && oneOf "?:" d)

/-- The next token, which starts with the given code point. -/
def token (d : CodePoint) : Lexing Unit := do
  let s ← get
  if s.cursor.column = 0 then
    if d = '%' then return ← directive
    if d = '-' || d = '.' then
      if ← scan (Scan.atMarker [d]) then
        return ← marker (if d = '-' then .documentStart else .documentEnd)
  if d = '[' then openFlow .flowSequenceStart
  else if d = '\x7b' then openFlow .flowMappingStart
  else if d = ']' then closeFlow .flowSequenceEnd
  else if d = '\x7d' then closeFlow .flowMappingEnd
  else if d = ',' then flowEntry
  else if d = '*' then word (return .alias (← Scan.name))
  else if d = '&' then word (return .anchor (← Scan.name))
  else if d = '!' then word do let (handle, suffix) ← Scan.tag; return .tag handle suffix
  else if d = '|' && !s.inFlow then block false
  else if d = '>' && !s.inFlow then block true
  else if d = '\'' || d = '"' then word (return .scalar (← Scan.quoted) false)
  else
    if d = '-' then
      if endsWord (← scan (peek 1)) then return ← indicator .blockSequenceStart .blockEntry true
    if d = '?' then
      if ← standsAlone then return ← indicator .blockMappingStart .key (!s.inFlow)
    if d = ':' then
      if ← standsAlone then return ← value
    if ← startsPlain d then plain else fail

/-- The next token, or the end of the text: whether that is reached. -/
def next : Lexing Bool := do
  toNextToken ((← get).cursor.left + 1)
  dropStaleKeys
  modify fun s => s.leave s.cursor.column
  let d ← scan here
  if d.val ≠ 0 then
    token d
    return false
  modify (·.leave (-1))
  dropKey
  emit .textEnd
  return true

/-- All tokens from a state on.  The fuel is more than the length of the text. -/
def run : Nat → Lexer → List Token × Option TokenFault
  | 0, s => (s.settled, some .malformed)
  | fuel + 1, s =>
    match StateT.run dropStaleKeys s with
    | .error fault => (s.settled, some fault)
    | .ok (_, s) =>
      match StateT.run next s with
      | .error fault => (s.settled, some fault)
      | .ok (true, s) => (s.reversed.reverse, none)
      | .ok (false, s) => run fuel s

end Lexing

/-- The tokens of a text up to the first fault in it, and that fault.  Without one the last token is
the end of the text. -/
def Source.tokens (s : Source) : List Token × Option TokenFault :=
  Lexing.run (s.text.length + 2) (Lexer.start s)

end Yaml

end StructuredData
