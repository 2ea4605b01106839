import StructuredData.Number.Reading
import StructuredData.Yaml.Cursor

/-!
# Words of YAML

The words of a YAML text: scalars in their five styles, tags, names of anchors, and directives.
Each reader starts at the first code point of its word and leaves the place after it; block scalars
and directives take the rest of their line with them.
-/

namespace StructuredData

namespace Yaml

namespace Scan

/-! ## Quoted scalars -/

/-- What an escape of one character stands for. -/
def simpleEscape? (c : CodePoint) : Option CodePoint :=
  if c = '0' then some '\x00'
  else if c = 'a' then some '\x07'
  else if c = 'b' then some '\x08'
  else if c = 't' || c.val = 9 then some '\t'
  else if c = 'n' then some '\n'
  else if c = 'v' then some '\x0b'
  else if c = 'f' then some '\x0c'
  else if c = 'r' then some '\x0d'
  else if c = 'e' then some '\x1b'
  else if c = ' ' || c = '"' || c = '\\' || c = '/' then some c
  else if c = 'N' then some '\u0085'
  else if c = '_' then some '\u00a0'
  else if c = 'L' then some '\u2028'
  else if c = 'P' then some '\u2029'
  else none

/-- The number of hexadecimal digits of an escape by number. -/
def escapeWidth? (c : CodePoint) : Option Nat :=
  if c = 'x' then some 2 else if c = 'u' then some 4 else if c = 'U' then some 8 else none

/-- The line breaks inside a quoted scalar; no document marker may start one of its lines. -/
def quotedBreaks : Nat → Scan Text
  | 0 => fail
  | fuel + 1 => do
    if ← atAnyMarker then fail
    dropWhile isGap
    if isBreak (← here) then
      let b ← lineBreak
      return b ++ (← quotedBreaks fuel)
    else return []

/-- A line break folded together with those that follow it. -/
def foldBreaks (first rest : Text) : Text :=
  if first ≠ [Text.newline] then first ++ rest else if rest.isEmpty then " " else rest

/-- Blanks in a quoted scalar, or the line break they lead to. -/
def quotedGap (fuel : Nat) : Scan Text := do
  let blanks ← takeWhile isGap
  let d ← here
  if d.val = 0 then fail
  if isBreak d then
    let b ← lineBreak
    return foldBreaks b (← quotedBreaks fuel)
  else return blanks

/-- An escape after its backslash. -/
def readEscape (fuel : Nat) : Scan Text := do
  let d ← here
  match simpleEscape? d, escapeWidth? d with
  | some x, _ => skip 1; return [x]
  | none, some width =>
    skip 1
    let n ← peekHex width
    if 0x110000 ≤ n then throw (.badEscape n)
    skip width
    return [CodePoint.ofNat n]
  | none, none =>
    if isBreak d then
      let _ ← lineBreak
      quotedBreaks fuel
    else fail

/-- What stands for itself in quoted scalars of either style. -/
def isQuotedPoint (c : CodePoint) : Bool := !(oneOf "'\"\\" c || endsWord c)

/-- The rest of a quoted scalar up to its closing mark. -/
def readQuoted (mark : CodePoint) : Nat → Scan Text
  | 0 => fail
  | fuel + 1 => do
    let t ← takeWhile isQuotedPoint
    let d ← here
    let before (u : Text) : Scan Text := return t ++ u ++ (← readQuoted mark fuel)
    if endsWord d then before (← quotedGap fuel)
    else if d = mark then
      if mark = '\'' then
        if (← peek 1) = mark then
          skip 2
          return ← before [d]
      skip 1
      return t
    else if mark = '"' && d = '\\' then
      skip 1
      before (← readEscape fuel)
    else
      skip 1
      before [d]

/-- A quoted scalar. -/
def quoted : Scan Text := do
  let mark ← here
  skip 1
  readQuoted mark ((← left) + 1)

/-! ## Plain scalars -/

/-- What a plain scalar passes over between two of its parts, whether a line ended there, and
whether the scalar can go on. -/
structure Gap where
  text : Text
  brokeLine : Bool
  goesOn : Bool

/-- The blank lines and the indentation in a gap from the start of a line on, unless a document
marker stands at the start of one of the lines. -/
def gapLines : Nat → Scan (Option Text)
  | 0 => return none
  | fuel + 1 => do
    if ← atAnyMarker then return none
    dropWhile isSpace
    if isBreak (← here) then
      let b ← lineBreak
      return (← gapLines fuel).map (b ++ ·)
    else return some []

/-- The gap at a place in a plain scalar. -/
def readGap : Scan Gap := do
  let blanks ← takeWhile isSpace
  if isBreak (← here) then
    let b ← lineBreak
    match ← gapLines ((← left) + 1) with
    | none => return ⟨[], true, false⟩
    | some bs => return ⟨foldBreaks b bs, true, true⟩
  else return ⟨blanks, false, !blanks.isEmpty⟩

/-- The length of the part of a plain scalar that starts with a text, and the number of code points
that show where it ends. -/
def plainLength (inFlow : Bool) : Text → Nat × Nat
  | [] => (0, 1)
  | d :: rest =>
    let follower := rest.head?.getD '\x00'
    if endsWord d || (inFlow && oneOf ",?[]\x7b\x7d" d) then (0, 1)
    else if d = ':' && (endsWord follower || (inFlow && oneOf ",[]\x7b\x7d" follower)) then (0, 2)
    else
      let (length, seen) := plainLength inFlow rest
      (length + 1, seen + 1)

/-- The parts of a plain scalar from here on, after a gap in which a line ended or not, and whether
a line ended after the last of them. -/
def readPlain (inFlow : Bool) (indent : Int) : Nat → Text → Bool → Scan (Text × Bool)
  | 0, _, broke => return ([], broke)
  | fuel + 1, gap, broke => do
    if (← here) = '#' then return ([], broke)
    let rest := (← get).rest
    let (length, seen) := plainLength inFlow rest
    let _ ← peek (seen - 1)
    if length = 0 then return ([], broke)
    let t := gap ++ rest.take length
    skip length
    let g ← readGap
    if !g.goesOn then return (t, g.brokeLine)
    if (← here) = '#' || (!inFlow && ((← column) : Int) < indent) then return (t, g.brokeLine)
    let (u, broke) ← readPlain inFlow indent fuel g.text g.brokeLine
    return (t ++ u, broke)

/-- A plain scalar, and whether a line ended after it. -/
def plain (inFlow : Bool) (indent : Int) : Scan (Text × Bool) := do
  readPlain inFlow indent ((← left) + 1) [] false

/-! ## Block scalars -/

/-- How a block scalar treats the line breaks at its end. -/
inductive Chomping
  | strip
  | clip
  | keep
deriving DecidableEq

/-- The indentation indicator of a block scalar, a digit other than zero, if there is one. -/
def indentIndicator : Scan (Option Nat) := do
  let d ← here
  if !d.isAsciiDigit then return none
  if d = '0' then fail
  skip 1
  return some (d.val - 48)

/-- The chomping indicator of a block scalar, if there is one. -/
def chompingIndicator : Scan (Option Chomping) := do
  let d ← here
  if d = '+' then skip 1; return some .keep
  else if d = '-' then skip 1; return some .strip
  else return none

/-- The indicators of a block scalar, in either order. -/
def blockIndicators : Scan (Chomping × Option Nat) := do
  match ← chompingIndicator with
  | some chomping => return (chomping, ← indentIndicator)
  | none =>
    match ← indentIndicator with
    | some n => return ((← chompingIndicator).getD .clip, some n)
    | none => return (.clip, none)

/-- The blank lines before the first line of a block scalar, and the deepest indentation seen. -/
def blockLead : Nat → Nat → Scan (Text × Nat)
  | 0, deepest => return ([], deepest)
  | fuel + 1, deepest => do
    dropWhile isSpace
    let deepest := max deepest (← column)
    if isBreak (← here) then
      let b ← lineBreak
      let (bs, deepest) ← blockLead fuel deepest
      return (b ++ bs, deepest)
    else return ([], deepest)

/-- Passes over indentation up to a column. -/
def skipIndent (indent : Nat) : Scan Unit := do
  let spaces := ((← get).rest.takeWhile isSpace).length
  skip (min spaces (indent - (← column)))

/-- The blank lines before a line of a block scalar, one text for each. -/
def blockBreaks (indent : Nat) : Nat → Scan (List Text)
  | 0 => return []
  | fuel + 1 => do
    skipIndent indent
    if isBreak (← here) then
      let b ← lineBreak
      return b :: (← blockBreaks indent fuel)
    else return []

/-- Whether a line of a block scalar with the given indentation starts here. -/
def atBlockLine (indent : Nat) : Scan Bool := do
  return (← column) = indent && (← here).val ≠ 0

/-- The lines of a block scalar: its text without the end, the last line break, and the blank lines
after it. -/
def blockLines (folded : Bool) (indent : Nat) :
    Nat → List Text → Scan (Text × Text × List Text)
  | 0, breaks => return ([], [], breaks)
  | fuel + 1, breaks => do
    if !(← atBlockLine indent) then return ([], [], breaks)
    let startsBlank := isGap (← here)
    let line ← takeWhile fun d => !endsLine d
    let b ← lineBreak
    let nextBreaks ← blockBreaks indent fuel
    let t := breaks.flatten ++ line
    if !(← atBlockLine indent) then return (t, b, nextBreaks)
    let joined : Text :=
      if folded && b = [Text.newline] && !startsBlank && !isGap (← here) then
        if nextBreaks.isEmpty then " " else []
      else b
    let (u, last, after) ← blockLines folded indent fuel nextBreaks
    return (t ++ joined ++ u, last, after)

/-- A block scalar in a block of the given indentation. -/
def blockScalar (folded : Bool) (parent : Int) : Scan Text := do
  skip 1
  let (chomping, increment) ← blockIndicators
  if !endsPart (← here) then fail
  ignoredLine
  let least := max 1 (parent + 1).toNat
  let fuel := (← left) + 1
  let (indent, breaks) ←
    match increment with
    | none => do
      let (bs, deepest) ← blockLead fuel 0
      pure (max least deepest, [bs])
    | some n => do
      let indent := least + n - 1
      pure (indent, ← blockBreaks indent fuel)
  let breaks := breaks.filter fun b => !b.isEmpty
  let (t, last, after) ← blockLines folded indent fuel breaks
  let ending : Text := match chomping with
    | .strip => []
    | .clip => last
    | .keep => last ++ after.flatten
  return t ++ ending

/-! ## Tags and names -/

/-- Characters of a tag's name. -/
def isUriPoint (c : CodePoint) : Bool :=
  c.isAsciiDigit || c.isAsciiLower || c.isAsciiUpper || oneOf "-;/?:@&=+$,_.!~*'()[]%" c

/-- A row of octets, each written as a percent sign and two hexadecimal digits. -/
def uriOctets : Nat → Scan Octets
  | 0 => return []
  | fuel + 1 => do
    if (← here) ≠ '%' then return []
    skip 1
    let n ← peekHex 2
    skip 2
    return UInt8.ofNat n :: (← uriOctets fuel)

/-- The rest of the name of a tag. -/
def uriParts : Nat → Scan Text
  | 0 => return []
  | fuel + 1 => do
    let t ← takeWhile fun c => isUriPoint c && c ≠ '%'
    if (← here) ≠ '%' then return t
    match Utf8.decode (← uriOctets fuel) with
    | .ok u => return t ++ u ++ (← uriParts fuel)
    | .error _ => fail

/-- The name of a tag. -/
def uri : Scan Text := do
  let t ← uriParts ((← left) + 1)
  if t.isEmpty then fail
  return t

/-- A tag handle: an exclamation mark, a word closed by another one, or two marks. -/
def tagHandle : Scan Text := do
  if (← here) ≠ '!' then fail
  if (← peek 1) = ' ' then skip 1; return "!"
  let word := ((← get).rest.drop 1).takeWhile isWordPoint
  if (← peek (word.length + 1)) ≠ '!' then fail
  skip (word.length + 2)
  return "!" ++ word ++ "!"

/-- The handle of a tag, if it has one, and the rest of the tag. -/
def tag : Scan (Option Text × Text) := do
  let d ← peek 1
  let t ←
    if d = '<' then do
      skip 2
      let suffix ← uri
      if (← here) ≠ '>' then fail
      skip 1
      pure (none, suffix)
    else if endsWord d then do
      skip 1
      pure (none, "!")
    else do
      let word := ((← get).rest.drop 1).takeWhile fun d => !(endsPart d || d = '!')
      let handle ←
        if (← peek (word.length + 1)) = '!' then tagHandle
        else do skip 1; pure "!"
      pure (some handle, ← uri)
  if endsPart (← here) then return t else fail

/-- The name of an anchor or an alias, after its mark. -/
def name : Scan Text := do
  skip 1
  let t ← takeWhile isWordPoint
  let d ← here
  if t.isEmpty || !(endsWord d || oneOf "?:,]\x7d%@\x60" d) then fail
  return t

/-! ## Directives -/

/-- A directive: the version of the language, a tag handle with what it stands for, or another. -/
inductive Directive
  | version (major : Nat)
  | tagHandle (handle lead : Text)
  | other
deriving DecidableEq

/-- A number in a version. -/
def versionPart : Scan Nat := do
  let digits := (← get).rest.takeWhile CodePoint.isAsciiDigit
  let _ ← peek digits.length
  if digits.isEmpty then fail
  if maxIntegerDigits < digits.length then throw (.tooManyDigits digits.length)
  skip digits.length
  return Text.digitsValue digits

/-- A directive with the rest of its line. -/
def directive : Scan Directive := do
  skip 1
  let word ← takeWhile isWordPoint
  if word.isEmpty || !endsPart (← here) then fail
  let d ←
    if word = "YAML" then do
      dropWhile isSpace
      let major ← versionPart
      if (← here) ≠ '.' then fail
      skip 1
      let _ ← versionPart
      if !endsPart (← here) then fail
      pure (.version major)
    else if word = "TAG" then do
      dropWhile isSpace
      let handle ← tagHandle
      if (← here).val ≠ 32 then fail
      dropWhile isSpace
      let lead ← uri
      if !endsPart (← here) then fail
      pure (.tagHandle handle lead)
    else do
      dropWhile fun d => !endsLine d
      pure .other
  ignoredLine
  return d

end Scan

end Yaml

end StructuredData
