import StructuredData.Text.Basic

/-!
# Blank code points

White space in the sense of the Unicode property, together with the four information separators
`0x1C` to `0x1F`: 29 code points.  Trimming, cutting into words and the class of white space in
format patterns all use this one set.
-/

namespace StructuredData

/-- The ranges of white space, the information separators included. -/
def blankRanges : List (Nat × Nat) := [
  (0x9, 0xD), (0x1C, 0x20), (0x85, 0x85), (0xA0, 0xA0), (0x1680, 0x1680), (0x2000, 0x200A),
  (0x2028, 0x2029), (0x202F, 0x202F), (0x205F, 0x205F), (0x3000, 0x3000)]

namespace CodePoint

/-- White space. -/
def isBlank (c : CodePoint) : Bool := c.inRanges blankRanges

end CodePoint

namespace Text

/-- The text without blanks at its ends. -/
def strip (t : Text) : Text := t.trim CodePoint.isBlank

/-- The words of a text, blanks between them dropped. -/
def blankSeparated (t : Text) : List Text := t.words CodePoint.isBlank

end Text

end StructuredData
