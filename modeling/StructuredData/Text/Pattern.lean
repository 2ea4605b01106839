import StructuredData.Text.Basic

/-!
# Patterns of text

A pattern is built from code point classes by sequence, choice, option and repetition.  `rests p t`
lists what can be left of the text `t` once a head of it has been read as `p` says, so a pattern
fits at the start of a text when that list is not empty.

The end of a text also counts as reached before one line feed that ends it.
-/

namespace StructuredData

/-- A pattern of text. -/
inductive Pattern
  | nothing
  | atEnd
  | one (p : CodePoint → Bool)
  | run (p : CodePoint → Bool) (least : Nat) (most : Option Nat)
  | seq (a b : Pattern)
  | alt (a b : Pattern)
  | maybe (a : Pattern)

namespace Pattern

/-- What can be left once at least `least` and at most `most` code points of the class are read. -/
def runRests (p : CodePoint → Bool) : Nat → Option Nat → Text → List Text
  | least, most, t =>
    let here : List Text := if least = 0 then [t] else []
    match t with
    | [] => here
    | c :: rest =>
      if most = some 0 then here
      else if p c then here ++ runRests p (least - 1) (most.map (· - 1)) rest
      else here

/-- What can be left of a text once a head of it is read as the pattern says. -/
def rests : Pattern → Text → List Text
  | .nothing, t => [t]
  | .atEnd, t => if t.isEmpty ∨ t = [Text.newline] then [t] else []
  | .one p, t =>
    match t with
    | [] => []
    | c :: rest => if p c then [rest] else []
  | .run p least most, t => runRests p least most t
  | .seq a b, t => (a.rests t).flatMap b.rests
  | .alt a b, t => a.rests t ++ b.rests t
  | .maybe a, t => t :: a.rests t

/-- Whether the pattern fits at the start of the text. -/
def fits (p : Pattern) (t : Text) : Bool := !(p.rests t).isEmpty

/-- Whether the pattern fits somewhere in the text. -/
def occurs (p : Pattern) : Text → Bool
  | [] => p.fits []
  | c :: rest => p.fits (c :: rest) || occurs p rest

/-! ## Building patterns -/

/-- The patterns one after another. -/
def all (ps : List Pattern) : Pattern := ps.foldr .seq .nothing

/-- Any one of the patterns, the first at hand being `p`. -/
def oneOf (p : Pattern) (ps : List Pattern) : Pattern := ps.foldl .alt p

/-- The given text. -/
def word (t : Text) : Pattern := all (t.map fun c => .one (· = c))

/-- The given single character. -/
def char (c : Char) : Pattern := .one (· = CodePoint.ofChar c)

end Pattern

end StructuredData
