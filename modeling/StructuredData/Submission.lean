import StructuredData.Json.Reader
import StructuredData.Document

/-!
# Submissions

A document is handed in with the label of the type it is declared to have.  The document itself is
JSON text; label and document are values, because a page that is handed in as JSON can hold
anything in their places.

An item of a page is an object with a `type` and a `schema`, or a pair of the two.  A text of two
code points counts as a pair as well.

Reading a text takes one call for each container that is open, and only so many calls may be open
at once, those of the caller counted in.  A document is read where it is validated, and once more
where its page is looked at as a whole, and each of these places has a depth of its own up to which
it reads.
-/

namespace StructuredData

/-- A document as it is handed in: its declared type and its text. -/
structure Submission where
  label : Value
  schema : Value

/-- How deep documents may nest where their texts are read. -/
structure Depths where
  /-- Where one document is validated on its own. -/
  alone : Nat
  /-- Where several documents are validated one after another. -/
  inTurn : Nat
  /-- In the tasks of a pool. -/
  pooled : Nat
  /-- Where a page is looked at as a whole. -/
  page : Nat

/-- Why an item of a page is no submission. -/
inductive ItemFault
  | missing (name : Text)
  | notIterable (kind : Text)
  | tooFew (count : Nat)
  | tooMany
deriving DecidableEq

/-- The wording of a fault. -/
def ItemFault.message : ItemFault → Text
  | .missing name => Text.quoted name
  | .notIterable kind => "cannot unpack non-iterable " ++ kind ++ " object"
  | .tooFew count => "not enough values to unpack (expected 2, got " ++ Text.ofNat count ++ ")"
  | .tooMany => "too many values to unpack (expected 2)"

namespace Submission

/-- A declared type and a document, both given as text. -/
def ofTexts (label schema : Text) : Submission := ⟨.string label, .string schema⟩

/-- The submission of exactly two values. -/
def ofPair : List Value → Except ItemFault Submission
  | [label, schema] => .ok ⟨label, schema⟩
  | _ :: _ :: _ :: _ => .error .tooMany
  | vs => .error (.tooFew vs.length)

/-- The submission that an item of a page describes. -/
def ofItem : Value → Except ItemFault Submission
  | .object ms =>
    match Members.get? "type" ms, Members.get? "schema" ms with
    | none, _ => .error (.missing "type")
    | some _, none => .error (.missing "schema")
    | some label, some schema => .ok ⟨label, schema⟩
  | .array vs => ofPair vs
  | .string t => ofPair (t.map fun c => .string [c])
  | v => .error (.notIterable v.kindName)

/-- The submissions of a page's items, or the fault of the first item that is none. -/
def ofItems (items : List Value) : Except ItemFault (List Submission) := items.mapM ofItem

/-- The value that a submission's text writes, if it is nested at most so deep; what is no text
writes none. -/
def parsed? (s : Submission) (depth : Nat) : Option Value := s.schema.text?.bind (Json.read? depth)

/-- The document of a submission, if its text can be read. -/
def document? (s : Submission) (depth : Nat) : Option Document :=
  (s.parsed? depth).map Document.ofValue

end Submission

end StructuredData
