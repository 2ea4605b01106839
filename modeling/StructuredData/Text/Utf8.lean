import StructuredData.Text.Quoted

/-!
# UTF-8

Files hold octets.  Writing a text gives octets unless half of a surrogate pair stands in it;
reading octets gives a text unless they are ill formed.  Either fault names the first faulty
stretch.
-/

namespace StructuredData

/-- A file's content. -/
abbrev Octets := List UInt8

namespace Utf8

/-! ## Writing -/

/-- Continuation octet for the six bits that start at the given place. -/
def continuation (n place : Nat) : UInt8 := UInt8.ofNat (0x80 + (n >>> place) % 64)

/-- The octets of one code point. -/
def encodePoint (c : CodePoint) : Octets :=
  let n := c.val
  if n < 0x80 then [UInt8.ofNat n]
  else if n < 0x800 then [UInt8.ofNat (0xC0 + n / 64), continuation n 0]
  else if n < 0x10000 then
    [UInt8.ofNat (0xE0 + n / 4096), continuation n 6, continuation n 0]
  else [UInt8.ofNat (0xF0 + n / 262144), continuation n 12, continuation n 6, continuation n 0]

/-- The octets of the code points of a text.  Half of a surrogate pair has some of the form that it
would have, which stand in no file: `encode` refuses it, and `decode` refuses them. -/
def octets (t : Text) : Octets := t.flatMap encodePoint

/-- A stretch of a text that has no octets: its first code point, where it stands and how many
halves of surrogate pairs follow one another there. -/
structure EncodeError where
  point : CodePoint
  position : Nat
  length : Nat
deriving DecidableEq

/-- The first stretch of a text that starts with a code point that is refused. -/
def refused? (isRefused : CodePoint → Bool) (t : Text) : Option EncodeError :=
  match t.dropWhile fun c => !isRefused c with
  | [] => none
  | c :: rest =>
    let stretch := rest.takeWhile CodePoint.isSurrogate
    some ⟨c, t.length - (rest.length + 1), stretch.length + 1⟩

/-- The octets of a text. -/
def encode (t : Text) : Except EncodeError Octets :=
  match refused? CodePoint.isSurrogate t with
  | none => .ok (octets t)
  | some e => .error e

/-- The octets of some texts up to the first one that has none, and the fault of that one. -/
def encodeAll : List Text → Octets × Option EncodeError
  | [] => ([], none)
  | t :: rest =>
    match encode t with
    | .error e => ([], some e)
    | .ok o =>
      let (more, fault) := encodeAll rest
      (o ++ more, fault)

/-- The text with each half of a surrogate pair spelled out by its number. -/
def spellOut (t : Text) : Text :=
  t.flatMap fun c => if c.isSurrogate then "\\u" ++ Text.hex 4 c.val else [c]

/-- The wording of an encoding fault: one code point is named by its number, several by their
places. -/
def EncodeError.message (e : EncodeError) : Text :=
  let place : Text :=
    if e.length = 1 then
      "character '\\u" ++ Text.hex 4 e.point.val ++ "' in position " ++ Text.ofNat e.position
    else
      "characters in position " ++ Text.ofNat e.position ++ "-" ++
        Text.ofNat (e.position + e.length - 1)
  "'utf-8' codec can't encode " ++ place ++ ": surrogates not allowed"

/-! ## Reading -/

/-- What is wrong with a stretch of octets. -/
inductive Fault
  | invalidStart
  | invalidContinuation
  | unexpectedEnd
deriving DecidableEq

/-- A faulty stretch of octets: its first octet, where it stands, how long it is, and the fault. -/
structure DecodeError where
  octet : UInt8
  position : Nat
  length : Nat
  fault : Fault
deriving DecidableEq

/-- The outcome of reading one code point at the head of some octets. -/
inductive Step
  | point (c : CodePoint) (size : Nat)
  | fault (length : Nat) (fault : Fault)
  | unfinished

/-- Octets `10xxxxxx`. -/
def isContinuation (b : UInt8) : Bool := 0x80 ≤ b && b < 0xC0

/-- The six bits of a continuation octet. -/
def payload (b : UInt8) : Nat := b.toNat % 64

/-- Whether the second octet of a sequence is allowed after the first: no longer form than needed,
no half of a surrogate pair, nothing above `0x10FFFF`. -/
def allowsSecond (first second : UInt8) : Bool :=
  isContinuation second &&
    (first != 0xE0 || 0xA0 ≤ second) && (first != 0xED || second < 0xA0) &&
    (first != 0xF0 || 0x90 ≤ second) && (first != 0xF4 || second < 0x90)

/-- Reads one code point.  A fault is reported at the first octet that cannot continue the
sequence, and a sequence that is only cut short is unfinished. -/
def step : Octets → Step
  | [] => .unfinished
  | a :: rest =>
    let n := a.toNat
    if n < 0x80 then .point (CodePoint.ofNat n) 1
    else if n < 0xC2 then .fault 1 .invalidStart
    else if n < 0xE0 then
      match rest with
      | [] => .unfinished
      | b :: _ =>
        if isContinuation b then .point (CodePoint.ofNat (n % 32 * 64 + payload b)) 2
        else .fault 1 .invalidContinuation
    else if n < 0xF0 then
      match rest with
      | [] => .unfinished
      | b :: rest =>
        if !allowsSecond a b then .fault 1 .invalidContinuation
        else match rest with
          | [] => .unfinished
          | c :: _ =>
            if !isContinuation c then .fault 2 .invalidContinuation
            else .point (CodePoint.ofNat ((n % 16 * 64 + payload b) * 64 + payload c)) 3
    else if n < 0xF5 then
      match rest with
      | [] => .unfinished
      | b :: rest =>
        if !allowsSecond a b then .fault 1 .invalidContinuation
        else match rest with
          | [] => .unfinished
          | c :: rest =>
            if !isContinuation c then .fault 2 .invalidContinuation
            else match rest with
              | [] => .unfinished
              | d :: _ =>
                if !isContinuation d then .fault 3 .invalidContinuation
                else
                  .point (CodePoint.ofNat
                    (((n % 8 * 64 + payload b) * 64 + payload c) * 64 + payload d)) 4
    else .fault 1 .invalidStart

/-- Reads octets from a position on: the text, and the octets of a sequence cut short at the end.
The fuel is at least the number of octets. -/
def decodeFrom : Nat → Nat → Octets → Except DecodeError (Text × Octets)
  | _, _, [] => .ok ([], [])
  | 0, _, rest => .ok ([], rest)
  | fuel + 1, position, a :: rest =>
    match step (a :: rest) with
    | .unfinished => .ok ([], a :: rest)
    | .fault length fault => .error ⟨a, position, length, fault⟩
    | .point c size => do
      let (t, tail) ← decodeFrom fuel (position + size) ((a :: rest).drop size)
      .ok (c :: t, tail)

/-- The text of some octets, all of which must be well formed. -/
def decode (octets : Octets) : Except DecodeError Text := do
  let (t, tail) ← decodeFrom octets.length 0 octets
  match tail with
  | [] => .ok t
  | a :: _ => .error ⟨a, octets.length - tail.length, tail.length, .unexpectedEnd⟩

/-- Whether two octets start half of a surrogate pair. -/
def startsSurrogate (a b : UInt8) : Bool := a == 0xED && 0xA0 ≤ b && isContinuation b

/-- The text of octets that may go on, and the octets at the end that wait for more.  The first two
octets of half of a surrogate pair wait, too, though no third one can complete them. -/
def decodeOpen (octets : Octets) : Except DecodeError (Text × Octets) :=
  let cut := octets.length - 2
  let whole := decodeFrom octets.length 0 octets
  match octets.drop cut with
  | [a, b] =>
    if startsSurrogate a b then
      match decodeFrom cut 0 (octets.take cut) with
      | .ok (t, []) => .ok (t, [a, b])
      | _ => whole
    else whole
  | _ => whole

/-- The wording of a fault. -/
def Fault.message : Fault → Text
  | .invalidStart => "invalid start byte"
  | .invalidContinuation => "invalid continuation byte"
  | .unexpectedEnd => "unexpected end of data"

/-- The wording of a decoding fault: one octet is named by its value, several by their places. -/
def DecodeError.message (e : DecodeError) : Text :=
  let place : Text :=
    if e.length = 1 then
      "byte 0x" ++ Text.hex 2 e.octet.toNat ++ " in position " ++ Text.ofNat e.position
    else
      "bytes in position " ++ Text.ofNat e.position ++ "-" ++
        Text.ofNat (e.position + e.length - 1)
  "'utf-8' codec can't decode " ++ place ++ ": " ++ e.fault.message

end Utf8

end StructuredData
