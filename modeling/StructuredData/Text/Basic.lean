/-!
# Text as a list of code points

A JSON string may name any code point, also one half of a surrogate pair, which no `Char` is.
So text is a list of code points here, and a string literal stands for its own code points.
Lengths and cuts count code points, and two texts are equal when their code points are.

The operations below are the ones every other module shares: cutting at a separator, trimming,
splitting into words, searching for a part, and writing numbers in decimal.
-/

namespace StructuredData

/-! ## Code points -/

/-- A code point: a number below `0x110000`, the halves of surrogate pairs included. -/
structure CodePoint where
  val : Nat
  isLt : val < 0x110000
deriving DecidableEq

namespace CodePoint

/-- The code point of a character. -/
def ofChar (c : Char) : CodePoint :=
  ⟨c.toNat, by
    rcases c.valid with h | ⟨_, h⟩
    · have : c.val.toNat < 55296 := h
      simp only [Char.toNat]
      omega
    · exact h⟩

instance : Coe Char CodePoint := ⟨ofChar⟩

/-- The code point with the given number, or U+FFFD where the number is too large. -/
def ofNat (n : Nat) : CodePoint :=
  if h : n < 0x110000 then ⟨n, h⟩ else ⟨0xFFFD, by omega⟩

theorem val_ofNat (n : Nat) : (ofNat n).val = if n < 0x110000 then n else 0xFFFD := by
  unfold ofNat
  split <;> rfl

/-- Halves of surrogate pairs stand for no character and have no UTF-8 form. -/
def isSurrogate (c : CodePoint) : Bool :=
  0xD800 ≤ c.val && c.val ≤ 0xDFFF

theorem isSurrogate_ofNat {n : Nat} (h : n < 0xD800 ∨ 0xDFFF < n) :
    (ofNat n).isSurrogate = false := by
  unfold isSurrogate
  rw [val_ofNat]
  split
  · simp only [Bool.and_eq_false_iff, decide_eq_false_iff_not]
    omega
  · rfl

/-- The character of a code point, U+FFFD for half of a surrogate pair. -/
def toChar (c : CodePoint) : Char :=
  if c.isSurrogate then '\uFFFD' else Char.ofNat c.val

/-- Code points below 128. -/
def isAscii (c : CodePoint) : Bool := c.val < 128

/-- The digits `0` to `9`. -/
def isAsciiDigit (c : CodePoint) : Bool := 48 ≤ c.val && c.val ≤ 57

/-- The letters `A` to `Z`. -/
def isAsciiUpper (c : CodePoint) : Bool := 65 ≤ c.val && c.val ≤ 90

/-- The letters `a` to `z`. -/
def isAsciiLower (c : CodePoint) : Bool := 97 ≤ c.val && c.val ≤ 122

/-- The value of a hexadecimal digit, in either case. -/
def hexValue? (c : CodePoint) : Option Nat :=
  if c.isAsciiDigit then some (c.val - 48)
  else if 97 ≤ c.val && c.val ≤ 102 then some (c.val - 87)
  else if 65 ≤ c.val && c.val ≤ 70 then some (c.val - 55)
  else none

/-- Whether a code point lies in one of the listed ranges, ends included. -/
def inRanges (ranges : List (Nat × Nat)) (c : CodePoint) : Bool :=
  ranges.any fun r => r.1 ≤ c.val && c.val ≤ r.2

end CodePoint

/-! ## Text -/

/-- A text is the list of its code points. -/
abbrev Text := List CodePoint

namespace Text

/-- The code points of a string. -/
def ofString (s : String) : Text := s.toList.map CodePoint.ofChar

instance : Coe String Text := ⟨ofString⟩

/-- The text as a string, with U+FFFD for each half of a surrogate pair that stands alone. -/
def toDisplay (t : Text) : String := String.ofList (t.map CodePoint.toChar)

/-- The line feed. -/
def newline : CodePoint := '\n'

/-- The parts between the separators: one more than there are separators. -/
def splitOn (sep : CodePoint) : Text → List Text
  | [] => [[]]
  | c :: rest =>
    if c = sep then [] :: splitOn sep rest
    else match splitOn sep rest with
      | [] => [[c]]
      | part :: parts => (c :: part) :: parts

/-- The parts written one after another with a separator between them. -/
def join (sep : Text) (parts : List Text) : Text := List.intercalate sep parts

/-- The text without the leading and trailing code points that satisfy the test. -/
def trim (p : CodePoint → Bool) (t : Text) : Text :=
  ((t.dropWhile p).reverse.dropWhile p).reverse

/-- Extends the word that is being read, or closes it at a blank. -/
def wordsFrom (isBlank : CodePoint → Bool) : Text → Text → List Text
  | [], [] => []
  | [], word => [word.reverse]
  | c :: rest, word =>
    if isBlank c then
      if word.isEmpty then wordsFrom isBlank rest [] else word.reverse :: wordsFrom isBlank rest []
    else wordsFrom isBlank rest (c :: word)

/-- The maximal runs of code points that are not blank, in order. -/
def words (isBlank : CodePoint → Bool) (t : Text) : List Text := wordsFrom isBlank t []

/-- Whether the part occurs somewhere in the text. -/
def hasPart (part : Text) : Text → Bool
  | [] => part.isEmpty
  | c :: rest => part.isPrefixOf (c :: rest) || hasPart part rest

/-- A natural number in decimal. -/
def ofNat (n : Nat) : Text := (Nat.toDigits 10 n).map CodePoint.ofChar

/-- An integer in decimal, with a minus sign where it is negative. -/
def ofInt : Int → Text
  | .ofNat n => ofNat n
  | .negSucc n => '-' :: ofNat (n + 1)

/-- The text filled up on the left to at least the given width. -/
def padLeft (fill : CodePoint) (width : Nat) (t : Text) : Text :=
  List.replicate (width - t.length) fill ++ t

/-- A carriage return, alone or before a line feed, ends a line: each such end is written as one
line feed. -/
def unifyNewlines : Text → Text
  | [] => []
  | c :: rest =>
    if c.val = 13 then
      match rest with
      | [] => [newline]
      | d :: rest' =>
        if d = newline then newline :: unifyNewlines rest'
        else newline :: unifyNewlines (d :: rest')
    else c :: unifyNewlines rest

end Text

end StructuredData
