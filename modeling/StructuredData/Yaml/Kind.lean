import StructuredData.Text.Pattern
import StructuredData.Yaml.Scalar

/-!
# Kinds of YAML nodes

A node is read according to its kind.  A tag names the kind; without a tag a plain scalar shows it
by its look, a quoted scalar is a text, and a collection is what it is.
-/

namespace StructuredData

namespace Yaml

/-- What a node is read as. -/
inductive Kind
  | null
  | bool
  | int
  | float
  | timestamp
  | binary
  | string
  | sequence
  | mapping
  | set
  | orderedMapping
  | pairs
  | merge
  | value
  | unknown
deriving DecidableEq

namespace Kind

/-! ## By tag -/

/-- The kinds with the last parts of their tags. -/
def named : List (Text × Kind) :=
  [("null", .null), ("bool", .bool), ("int", .int), ("float", .float),
    ("timestamp", .timestamp), ("binary", .binary), ("str", .string), ("seq", .sequence),
    ("map", .mapping), ("set", .set), ("omap", .orderedMapping), ("pairs", .pairs),
    ("merge", .merge), ("value", .value)]

/-- The kind that a full tag names. -/
def ofTag (tag : Text) : Kind :=
  match named.find? fun entry => "tag:yaml.org,2002:" ++ entry.1 = tag with
  | some (_, kind) => kind
  | none => .unknown

/-! ## By look -/

/-- Whether a text is one of the given words. -/
def isWordOf (words : List String) (t : Text) : Bool := words.any fun w => Text.ofString w = t

/-- Words for null; nothing written is one of them. -/
def looksNull : Text → Bool := isWordOf ["~", "null", "Null", "NULL", ""]

/-- Words for truth values. -/
def looksBool : Text → Bool :=
  isWordOf ["yes", "Yes", "YES", "no", "No", "NO", "true", "True", "TRUE", "false", "False",
    "FALSE", "on", "On", "ON", "off", "Off", "OFF"]

/-- The text without a sign in front. -/
def unsigned : Text → Text
  | [] => []
  | c :: rest => if c = '+' || c = '-' then rest else c :: rest

/-- Digits of a class and low lines. -/
def orLowLine (p : CodePoint → Bool) (c : CodePoint) : Bool := p c || c = '_'

/-- Digits and low lines, at least one of them and a digit of the given class first. -/
def looksRow (first : CodePoint → Bool) : Text → Bool
  | [] => false
  | c :: rest => first c && rest.all (orLowLine CodePoint.isAsciiDigit)

/-- The digits `1` to `9`. -/
def isCountingDigit (c : CodePoint) : Bool := c.isAsciiDigit && c ≠ '0'

/-- One or two digits of a number below sixty. -/
def looksSixtieth (t : Text) : Bool :=
  match t with
  | [a] => a.isAsciiDigit
  | [a, b] => 48 ≤ a.val && a.val ≤ 53 && b.isAsciiDigit
  | _ => false

/-- Parts in base sixty with colons between them, at least two. -/
def looksSexagesimal (first : CodePoint → Bool) (t : Text) : Bool :=
  match Text.splitOn ':' t with
  | head :: part :: parts => looksRow first head && (part :: parts).all looksSixtieth
  | _ => false

/-- Integers: in base ten, two, eight or sixteen, or in base sixty with colons. -/
def looksInt (t : Text) : Bool :=
  let t := unsigned t
  let marked (lead : Text) (p : CodePoint → Bool) : Bool :=
    lead.isPrefixOf t && !(t.drop lead.length).isEmpty && (t.drop lead.length).all (orLowLine p)
  t = "0" || looksRow isCountingDigit t || marked "0b" (fun c => c = '0' || c = '1') ||
    marked "0" (fun c => 48 ≤ c.val && c.val ≤ 55) || marked "0x" (·.hexValue?.isSome) ||
    looksSexagesimal isCountingDigit t

open Pattern in
/-- Digits around a point, with an exponent or not. -/
def decimalPattern : Pattern :=
  let sign : Pattern := .one fun c => c = '+' || c = '-'
  let digit : Pattern := .one CodePoint.isAsciiDigit
  let row : Pattern := .run (orLowLine CodePoint.isAsciiDigit) 0 none
  let exponent : Pattern :=
    .maybe (all [.one fun c => c = 'e' || c = 'E', sign, .run CodePoint.isAsciiDigit 1 none])
  Pattern.oneOf (all [.maybe sign, digit, row, char '.', row, exponent])
    [all [char '.', digit, row, exponent]]

/-- Base sixty with a point in the last part. -/
def looksSexagesimalFloat (t : Text) : Bool :=
  let whole := t.takeWhile fun c => c ≠ ('.' : CodePoint)
  let rest := t.drop whole.length
  looksSexagesimal CodePoint.isAsciiDigit whole && !rest.isEmpty &&
    (rest.drop 1).all (orLowLine CodePoint.isAsciiDigit)

/-- Floating-point numbers, which have a point, and the special ones. -/
def looksFloat (t : Text) : Bool :=
  (decimalPattern.rests t).contains [] || looksSexagesimalFloat (unsigned t) ||
    isWordOf [".inf", ".Inf", ".INF"] (unsigned t) || isWordOf [".nan", ".NaN", ".NAN"] t

end Kind

/-! ## Timestamps -/

/-- A date that may have a time, and the time's offset from universal time in minutes. -/
structure Timestamp where
  moment : Moment
  hasTime : Bool
  offset : Option Int

namespace Timestamp

/-- Tabs and spaces. -/
def isGap (c : CodePoint) : Bool := c = ' ' || c = '\t'

/-- The offset that the rest of a timestamp writes. -/
def offset? (t : Text) : Option (Option Int) :=
  match t.dropWhile isGap with
  | [] => if t.isEmpty then some none else none
  | c :: rest =>
    if c = 'Z' then if rest.isEmpty then some (some 0) else none
    else if c = '+' || c = '-' then do
      let (hours, rest) ← Moment.takeNumber 1 2 rest
      let (minutes, rest) ←
        if rest.isEmpty then pure (0, rest)
        else do Moment.takeNumber 2 2 (← Moment.takePoint (· = ':') rest)
      let total : Int := (60 * hours + minutes : Nat)
      if rest.isEmpty then return some (if c = '-' then -total else total) else none
    else none

/-- What separates a date from its time: a T or at least one blank. -/
def takeSeparator (t : Text) : Option Text :=
  match t with
  | [] => none
  | c :: rest =>
    if c = 'T' || c = 't' then some rest
    else if isGap c then some (rest.dropWhile isGap)
    else none

/-- The timestamp that a text writes. -/
def ofText? (t : Text) : Option Timestamp := do
  let (date, rest) ← Moment.takeDate 1 t
  if rest.isEmpty then return ⟨date, false, none⟩
  let (m, rest) ← Moment.takeTime 1 date (← takeSeparator rest)
  return ⟨m, true, ← offset? rest⟩

end Timestamp

namespace Kind

/-- Timestamps; a date alone has two digits for month and day. -/
def looksTimestamp (t : Text) : Bool :=
  match Timestamp.ofText? t with
  | some ts => ts.hasTime || t.length = 10
  | none => false

/-- Drops one line feed at the end. -/
def dropFinalNewline (t : Text) : Text :=
  if t.getLast? = some Text.newline then t.dropLast else t

/-- The kind that the look of a scalar shows.  One line feed at its end is overlooked. -/
def ofLook (t : Text) : Kind :=
  let body := dropFinalNewline t
  if body.isEmpty && !t.isEmpty then .string
  else if looksBool body then .bool
  else if looksFloat body then .float
  else if looksInt body then .int
  else if body = "<<" then .merge
  else if looksNull body then .null
  else if looksTimestamp body then .timestamp
  else if body = "=" then .value
  else if isWordOf ["!", "&", "*"] body then .unknown
  else .string

end Kind

end Yaml

end StructuredData
