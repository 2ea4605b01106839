/-!
# Binary floating-point numbers of 64 bits

A number is not a number, an infinity, or `± m · 2 ^ e` with a mantissa `m` below `2 ^ 53` and an
exponent from `-1074` to `971`, the mantissa being at least `2 ^ 52` unless the exponent is the
least one.  Every finite number has exactly one such form up to the sign of zero, and the form is
part of the type.

`ofRatio` rounds a quotient to the nearest number, a tie going to the even mantissa; what rounds
beyond the largest finite number is an infinity.  `scaled?` gives a finite number as an integer
count of `2 ^ -1074`, so comparisons are exact comparisons of integers.
-/

namespace StructuredData

/-- The finite forms: at most 53 bits of mantissa, all 53 used unless the exponent is least. -/
def IsCanonical (mantissa : Nat) (exponent : Int) : Prop :=
  mantissa < Nat.pow 2 53 ∧ -1074 ≤ exponent ∧ exponent ≤ 971 ∧
    (Nat.pow 2 52 ≤ mantissa ∨ exponent = -1074)

instance (m : Nat) (e : Int) : Decidable (IsCanonical m e) :=
  inferInstanceAs (Decidable (_ ∧ _))

/-- A binary floating-point number of 64 bits. -/
inductive Binary64
  | nan
  | infinity (negative : Bool)
  | finite (negative : Bool) (mantissa : Nat) (exponent : Int)
      (canonical : IsCanonical mantissa exponent)
deriving DecidableEq

namespace Binary64

/-- Zero with the given sign. -/
def zero (negative : Bool) : Binary64 := .finite negative 0 (-1074) (by decide)

/-- `± mantissa · 2 ^ exponent`, which is an infinity where the form is out of range. -/
def ofScaled (negative : Bool) (mantissa : Nat) (exponent : Int) : Binary64 :=
  if h : IsCanonical mantissa exponent then .finite negative mantissa exponent h
  else .infinity negative

/-! ## Rounding -/

/-- The quotient rounded to the nearest natural number, a tie going to the even one. -/
def roundHalfEven (num den : Nat) : Nat :=
  let q := num / den
  let r := num % den
  if 2 * r < den then q
  else if den < 2 * r then q + 1
  else if q % 2 = 0 then q else q + 1

/-- The exponent of the greatest power of two that is at most `num / den`. -/
def floorLog2 (num den : Nat) : Int :=
  let k : Int := num.log2 - den.log2
  if den <<< k.toNat ≤ num <<< (-k).toNat then k else k - 1

/-- The number nearest to `± num / den`. -/
def ofRatio (negative : Bool) (num den : Nat) : Binary64 :=
  if num = 0 then zero negative
  else
    let e := max (floorLog2 num den - 52) (-1074)
    let m := roundHalfEven (num <<< (-e).toNat) (den <<< e.toNat)
    if m = Nat.pow 2 53 then ofScaled negative (Nat.pow 2 52) (e + 1)
    else ofScaled negative m e

/-- The number nearest to an integer. -/
def ofInt (n : Int) : Binary64 := ofRatio (n < 0) n.natAbs 1

/-- The number nearest to `± digits · 10 ^ exponent`, where `digits` has at most `width` decimal
digits.  A value below `10 ^ -330` rounds to zero and one from `10 ^ 310` on to infinity, so huge
exponents are never written out. -/
def ofDecimal (negative : Bool) (digits width : Nat) (exponent : Int) : Binary64 :=
  if digits = 0 then zero negative
  else if 311 < exponent then .infinity negative
  else if (width : Int) + exponent < -330 then zero negative
  else if 0 ≤ exponent then ofRatio negative (digits * Nat.pow 10 exponent.toNat) 1
  else ofRatio negative digits (Nat.pow 10 (-exponent).toNat)

/-! ## Comparison and arithmetic -/

/-- A finite number as a count of `2 ^ -1074`. -/
def scaled? : Binary64 → Option Int
  | .finite negative m e _ =>
    let n : Nat := m <<< (e + 1074).toNat
    some (if negative then -n else n)
  | _ => none

/-- Whether a number has the minus sign. -/
def isNegative : Binary64 → Bool
  | .nan => false
  | .infinity negative => negative
  | .finite negative _ _ _ => negative

/-- The sum of two numbers.  A sum of zero is negative only if both numbers are. -/
def add : Binary64 → Binary64 → Binary64
  | .nan, _ | _, .nan => .nan
  | .infinity a, .infinity b => if a = b then .infinity a else .nan
  | .infinity a, _ => .infinity a
  | _, .infinity b => .infinity b
  | a@(.finite ..), b@(.finite ..) =>
    let n := a.scaled?.getD 0 + b.scaled?.getD 0
    if n = 0 then zero (a.isNegative && b.isNegative) else ofRatio (n < 0) n.natAbs (Nat.pow 2 1074)

/-- The product of two numbers; of an infinity and zero it is not a number. -/
def mul (a b : Binary64) : Binary64 :=
  let negative := a.isNegative != b.isNegative
  match a.scaled?, b.scaled? with
  | some m, some n => ofRatio negative (m.natAbs * n.natAbs) (Nat.pow 2 2148)
  | m, n => if a = .nan || b = .nan || m = some 0 || n = some 0 then .nan else .infinity negative

/-- A number with the other sign. -/
def negate : Binary64 → Binary64
  | .nan => .nan
  | .infinity negative => .infinity !negative
  | .finite negative m e h => .finite (!negative) m e h

/-- An integer as a count of `2 ^ -1074`. -/
def scaledInt (n : Int) : Int := n * (Nat.pow 2 1074 : Nat)

/-- The integer a number is, if it is one. -/
def toInt? : Binary64 → Option Int
  | .finite negative m e _ =>
    let signed (n : Nat) : Int := if negative then -n else n
    if 0 ≤ e then some (signed (m <<< e.toNat))
    else if m % Nat.pow 2 (-e).toNat = 0 then some (signed (m >>> (-e).toNat))
    else none
  | _ => none

/-- The whole part of a finite number without its sign. -/
def wholePart : Binary64 → Nat
  | .finite _ m e _ => m <<< e.toNat >>> (-e).toNat
  | _ => 0

/-- Zero of either sign. -/
def isZero : Binary64 → Bool
  | .finite _ m _ _ => m = 0
  | _ => false

/-- Neither an infinity nor not a number. -/
def isFinite : Binary64 → Bool
  | .finite .. => true
  | _ => false

end Binary64

end StructuredData
