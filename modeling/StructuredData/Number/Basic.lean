import StructuredData.Number.Shortest

/-!
# Numbers of a document

JSON writes integers of any size and binary floating-point numbers, and the two stay apart: they
are written differently and are compared by exact value.
-/

namespace StructuredData

/-- A number: an integer or a floating-point number. -/
inductive Number
  | int (n : Int)
  | float (x : Binary64)
deriving DecidableEq

namespace Number

/-- A finite number as a count of `2 ^ -1074`. -/
def scaled? : Number → Option Int
  | .int n => some (Binary64.scaledInt n)
  | .float x => x.scaled?

/-- `a ≤ b` by exact value; not a number is comparable with nothing. -/
def le : Number → Number → Bool
  | .float .nan, _ => false
  | _, .float .nan => false
  | .float (.infinity true), _ => true
  | _, .float (.infinity false) => true
  | a, b =>
    match a.scaled?, b.scaled? with
    | some m, some n => m ≤ n
    | _, _ => false

/-- Equality by exact value; not a number differs from everything. -/
def same (a b : Number) : Bool := a.le b && b.le a

/-- Zero, of either kind and sign. -/
def isZero : Number → Bool
  | .int n => n = 0
  | .float x => x.isZero

/-- A number in the given style. -/
def text (style : NumberStyle) : Number → Text
  | .int n => Text.ofInt n
  | .float x => x.text style

end Number

end StructuredData
