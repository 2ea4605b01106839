import StructuredData.Text.Basic

/-!
# Names for runs

A label becomes a file or directory name: every stretch of code points other than ASCII letters,
digits, dots, low lines and hyphens is one low line, and dots and low lines at the ends are cut.
-/

namespace StructuredData

namespace RunName

/-- Code points that may stand in a name. -/
def isSafe (c : CodePoint) : Bool :=
  c.isAsciiDigit || c.isAsciiLower || c.isAsciiUpper || c = '.' || c = '_' || c = '-'

/-- Code points that may not stand at the ends of a name. -/
def isEdge (c : CodePoint) : Bool := c = '.' || c = '_'

/-- The text with each stretch of unsafe code points as one low line.  The flag tells whether the
code point before was unsafe. -/
def replaceUnsafe (afterUnsafe : Bool) : Text → Text
  | [] => []
  | c :: rest =>
    if isSafe c then c :: replaceUnsafe false rest
    else if afterUnsafe then replaceUnsafe true rest
    else '_' :: replaceUnsafe true rest

/-- The name for a label; a label of which nothing is left is untitled. -/
def ofLabel (label : Text) : Text :=
  let name := Text.trim isEdge (replaceUnsafe false label)
  if name.isEmpty then "untitled" else name

end RunName

end StructuredData
