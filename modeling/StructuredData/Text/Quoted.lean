import StructuredData.Text.Printable

/-!
# Quoted text

Messages show a text between quotation marks, on one line and with every hidden code point spelled
out.  The mark is the single one, unless the text holds a single and no double mark.
-/

namespace StructuredData

namespace Text

/-- The digits of a number in small hexadecimal, at least `width` of them. -/
def hex (width n : Nat) : Text :=
  padLeft '0' width ((Nat.toDigits 16 n).map CodePoint.ofChar)

/-- The spelling of one code point between the given quotation marks. -/
def quotePoint (mark c : CodePoint) : Text :=
  if c = mark ∨ c = '\\' then ['\\', c]
  else if c = '\t' then "\\t"
  else if c = '\n' then "\\n"
  else if c = '\r' then "\\r"
  else if c.isPrintable then [c]
  else if c.val < 0x100 then "\\x" ++ hex 2 c.val
  else if c.val < 0x10000 then "\\u" ++ hex 4 c.val
  else "\\U" ++ hex 8 c.val

/-- The quotation mark for a text. -/
def quoteMark (t : Text) : CodePoint :=
  if t.contains '\'' && !t.contains '"' then '"' else '\''

/-- The text between quotation marks. -/
def quoted (t : Text) : Text :=
  let mark := t.quoteMark
  mark :: t.flatMap (quotePoint mark) ++ [mark]

end Text

end StructuredData
