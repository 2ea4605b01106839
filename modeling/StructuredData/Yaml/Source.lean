import StructuredData.Yaml.Cursor

/-!
# YAML text from a file

A file is read in pieces, as far as the text is needed.  A piece that cannot be decoded, or that
holds a code point no YAML text may hold, cuts the text off in front of it.  The first two pieces
are read before anything else and count as one.
-/

namespace StructuredData

namespace Yaml

/-- Code points that a YAML text may hold. -/
def isAllowed (c : CodePoint) : Bool :=
  let n := c.val
  n = 9 || n = 10 || n = 13 || (0x20 ≤ n && n ≤ 0x7E) || n = 0x85 || (0xA0 ≤ n && n ≤ 0xD7FF) ||
    (0xE000 ≤ n && n ≤ 0xFFFD) || 0x10000 ≤ n

namespace Source

/-- The text of some pieces and the fault behind them. -/
def join (cut : Option TokenFault) : List Text → Source
  | [] => ⟨[], cut⟩
  | piece :: rest =>
    if piece.all isAllowed then
      let s := join cut rest
      ⟨piece ++ s.text, s.cut⟩
    else ⟨[], some .malformed⟩

/-- The text of a file that is read in some pieces, with the fault that ends them if one does. -/
def ofPieces (pieces : List Text) (fault : Option Utf8.DecodeError) : Source :=
  let cut := fault.map TokenFault.undecodable
  match pieces, cut with
  | first :: second :: rest, _ => join cut ((first ++ second) :: rest)
  | [_], some fault => ⟨[], some fault⟩
  | pieces, _ => join cut pieces

end Source

end Yaml

end StructuredData
