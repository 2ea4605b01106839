import StructuredData.Text.Casing

/-!
# Small letters

The full small form of a text.  Each code point has its own small form, with two exceptions: the
dotted capital I becomes two code points, and a capital sigma at the end of a word becomes the
final small sigma.  A sigma ends a word when the nearest neighbour before it that is not passed
over is cased, and the nearest such neighbour after it is not.
-/

namespace StructuredData

namespace Text

/-- Whether the first code point that is not passed over is a letter with case. -/
def startsCased (t : Text) : Bool :=
  match t.dropWhile CodePoint.isCaseIgnorable with
  | [] => false
  | c :: _ => c.isCased

/-- The small form of one code point, given what stands before it (last first) and after it. -/
def smallFormIn (before : Text) (c : CodePoint) (after : Text) : Text :=
  if c.isAscii then
    if c.isAsciiUpper then [CodePoint.ofNat (c.val + 32)] else [c]
  else if c.val = 0x130 then ['i', '\u0307']
  else if c.val = 0x3A3 then
    if startsCased before && !startsCased after then ['ς'] else ['σ']
  else [c.smallForm]

/-- The small form of a text after the part that is already read (last first). -/
def lowerFrom (before : Text) : Text → Text
  | [] => []
  | c :: rest => smallFormIn before c rest ++ lowerFrom (c :: before) rest

/-- The text in small letters. -/
def lower (t : Text) : Text := lowerFrom [] t

end Text

end StructuredData
