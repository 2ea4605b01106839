import StructuredData.Number.Binary64
import StructuredData.Text.Utf8

/-!
# Reading a file in pieces

A text file can be read piece by piece, each piece holding the same number of code points but the
last.  Octets are fetched in chunks of at least 8192, of more when as many octets for each code
point as in the chunk before promise to be too few.  A chunk is decoded as a whole, together with
the octets of a code point that the chunk before cut short; a decoding fault counts its position
from there, and it keeps the whole piece for which the chunk is fetched from being read.

Line ends become line feeds.  A carriage return at the end of a chunk waits for the next one, which
may start with the line feed that belongs to it.
-/

namespace StructuredData

/-- A file that is being read: the octets not fetched yet, those of a code point cut short, whether
a carriage return waits, the text that is ready, and the octets for each code point of the last
chunk. -/
structure PieceReader where
  octets : Octets
  unfinished : Octets
  returnWaits : Bool
  ready : Text
  density : Binary64

namespace PieceReader

/-- The carriage return. -/
def carriageReturn : CodePoint := '\x0d'

/-- The start of a file. -/
def start (octets : Octets) : PieceReader := ⟨octets, [], false, [], .zero false⟩

/-- The least size of a chunk. -/
def leastChunk : Nat := 8192

/-- The size of the chunk that is fetched when so many code points are wanted. -/
def chunkSize (r : PieceReader) (wanted : Nat) : Nat :=
  max leastChunk (r.density.mul (.ofInt wanted)).wholePart

/-- What is left once all octets are fetched: a carriage return that waits, or nothing. -/
def finish (r : PieceReader) : Except Utf8.DecodeError (Option PieceReader) := do
  let _ ← Utf8.decode r.unfinished
  if r.returnWaits then
    return some { r with returnWaits := false, ready := [Text.newline], density := .zero false }
  else return none

/-- Fetches a chunk for so many code points; none when nothing is left. -/
def fetch (r : PieceReader) (wanted : Nat) : Except Utf8.DecodeError (Option PieceReader) := do
  let chunk := r.octets.take (r.chunkSize wanted)
  if chunk.isEmpty then return ← r.finish
  let (t, unfinished) ← Utf8.decodeOpen (r.unfinished ++ chunk)
  let t := if r.returnWaits && !t.isEmpty then carriageReturn :: t else t
  let returnWaits := if t.isEmpty then r.returnWaits else t.getLast? = some carriageReturn
  let ready := Text.unifyNewlines (if returnWaits then t.dropLast else t)
  let density : Binary64 :=
    if ready.isEmpty then .zero false else .ofRatio false chunk.length ready.length
  return some ⟨r.octets.drop chunk.length, unfinished, returnWaits, ready, density⟩

/-- Reads so many code points, fewer at the end of the file.  The fuel is more than the number of
chunks that are left. -/
def readWith : Nat → Nat → PieceReader → Except Utf8.DecodeError (Text × PieceReader)
  | 0, _, r => .ok ([], r)
  | fuel + 1, wanted, r => do
    let piece := r.ready.take wanted
    let r := { r with ready := r.ready.drop wanted }
    let missing := wanted - piece.length
    if missing = 0 then return (piece, r)
    match ← r.fetch missing with
    | none => return (piece, r)
    | some r =>
      let (rest, r) ← readWith fuel missing r
      return (piece ++ rest, r)

/-- The number of code points in a piece. -/
def pieceLength : Nat := 4096

/-- The pieces of a file that can be read, and the fault after them.  The fuel is more than the
number of octets. -/
def piecesWith : Nat → PieceReader → List Text × Option Utf8.DecodeError
  | 0, _ => ([], none)
  | fuel + 1, r =>
    match r.readWith (fuel + 1) pieceLength with
    | .error fault => ([], some fault)
    | .ok ([], _) => ([], none)
    | .ok (piece, r) =>
      let (rest, fault) := piecesWith fuel r
      (piece :: rest, fault)

end PieceReader

/-- The pieces of a file that can be read one after another, and the fault that ends them if one
does. -/
def Octets.pieces (octets : Octets) : List Text × Option Utf8.DecodeError :=
  PieceReader.piecesWith (octets.length + 3) (.start octets)

end StructuredData
