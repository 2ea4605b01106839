import StructuredData.Number.Binary64
import StructuredData.Text.Basic

/-!
# Shortest decimals

A finite number is written with the fewest decimal digits that read back as the number, and of two
such decimals with the nearer one, a tie going to the even last digit.  On the grid of decimals
with a given count of digits only the two neighbours of the number can read back, so seventeen
pairs of neighbours are tried in turn.

A decimal is written positionally while its point stands from four places before the first digit
to sixteen places after it, and with an exponent of at least two digits otherwise.
-/

namespace StructuredData

/-- The decimal `digits · 10 ^ exponent`. -/
structure Decimal where
  digits : Nat
  exponent : Int

namespace Decimal

/-- The number of decimal digits of a natural number. -/
def width (n : Nat) : Nat := (Nat.toDigits 10 n).length

/-- The binary number nearest to the decimal. -/
def toBinary64 (negative : Bool) (d : Decimal) : Binary64 :=
  Binary64.ofDecimal negative d.digits (width d.digits) d.exponent

/-- The value `count · 10 ^ -1074` between its neighbours on the grid of the given step, the nearer
one first. -/
def neighbours (count step : Nat) : Nat × Nat :=
  let q := count / step
  let r := count % step
  if 2 * r < step ∨ (2 * r = step ∧ q % 2 = 0) then (q, q + 1) else (q + 1, q)

/-- The first neighbour, on the grids of `places`, `places + 1`, … digits, that reads back as the
number; `count` is the number as a count of `10 ^ -1074` and has `total` digits. -/
def search (target : Binary64) (count total : Nat) : Nat → Nat → Decimal
  | 0, _ => ⟨count, -1074⟩
  | fuel + 1, places =>
    let exponent : Int := (total : Int) - places - 1074
    let (near, far) := neighbours count (Nat.pow 10 (total - places))
    if toBinary64 false ⟨near, exponent⟩ = target then ⟨near, exponent⟩
    else if toBinary64 false ⟨far, exponent⟩ = target then ⟨far, exponent⟩
    else search target count total fuel (places + 1)

/-- The shortest decimal that reads back as `mantissa · 2 ^ exponent`. -/
def shortest (mantissa : Nat) (exponent : Int) : Decimal :=
  let count := (mantissa <<< (exponent + 1074).toNat) * Nat.pow 5 1074
  search (Binary64.ofScaled false mantissa exponent) count (width count) 17 1

end Decimal

/-! ## Writing -/

/-- The spellings of the numbers that have no digits. -/
structure NumberStyle where
  nan : Text
  infinity : Text

/-- The digits without trailing zeros, and the place of the point counted from the first digit. -/
def Decimal.normalForm (d : Decimal) : Text × Int :=
  let digits := Text.ofNat d.digits
  ((digits.reverse.dropWhile fun c => c = ('0' : CodePoint)).reverse,
    (digits.length : Int) + d.exponent)

/-- Digits with the point at the given place, positionally or with an exponent. -/
def Decimal.layout (digits : Text) (point : Int) : Text :=
  let count : Int := digits.length
  if -4 < point ∧ point ≤ 16 then
    if point ≤ 0 then "0." ++ List.replicate (-point).toNat ('0' : CodePoint) ++ digits
    else if count ≤ point then
      digits ++ List.replicate (point - count).toNat ('0' : CodePoint) ++ ".0"
    else digits.take point.toNat ++ "." ++ digits.drop point.toNat
  else
    let e := point - 1
    let rest : Text := digits.drop 1
    let fraction : Text := if rest.isEmpty then [] else "." ++ rest
    let sign : Text := if e < 0 then "-" else "+"
    digits.take 1 ++ fraction ++ "e" ++ sign ++ Text.padLeft '0' 2 (Text.ofNat e.natAbs)

namespace Binary64

/-- A number in its shortest decimal. -/
def text (style : NumberStyle) : Binary64 → Text
  | .nan => style.nan
  | .infinity negative => (if negative then "-" else "") ++ style.infinity
  | .finite negative m e _ =>
    let body : Text :=
      if m = 0 then "0.0"
      else
        let (digits, point) := (Decimal.shortest m e).normalForm
        Decimal.layout digits point
    (if negative then "-" else "") ++ body

end Binary64

end StructuredData
