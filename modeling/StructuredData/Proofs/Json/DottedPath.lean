import StructuredData.Proofs.Json.Member
import StructuredData.Proofs.Text.Parts

/-!
# Dotted paths

A dotted path is followed name by name, and only objects lead on: once something else is reached and
a name is left, there is nothing at the end.  A path without dots is a single name.  So a path of
two parts can be followed in two stretches, the second one in the document to which the first one
leads (`lookup_dotted`).
-/

namespace StructuredData

namespace Value

variable {v : Value} {names : List Text}

/-- What is no object has no members. -/
lemma get_of_isObject_eq_false (h : v.isObject = false) (name : Text) : v.get name = .null := by
  cases v with
  | object ms => cases h
  | _ => rfl

lemma foldl_get_null (names : List Text) : names.foldl get .null = .null := by
  induction names with
  | nil => rfl
  | cons name rest ih => exact ih

/-- Nothing but an object leads anywhere. -/
lemma foldl_get_of_isObject_eq_false (h : v.isObject = false) (hne : names ≠ []) :
    names.foldl get v = .null := by
  obtain ⟨name, rest, rfl⟩ := List.exists_cons_of_ne_nil hne
  rw [List.foldl_cons, get_of_isObject_eq_false h, foldl_get_null]

end Value

namespace Document

variable {d : Document} {p q : Text}

/-- A dot, which stands between the names of a path. -/
abbrev dot : CodePoint := '.'

/-- In the document of an object a path is followed from the object. -/
lemma lookup_ofValue {v : Value} (h : v.isObject = true) (path : Text) :
    (ofValue v).lookup path = (path.splitOn dot).foldl Value.get v := by
  cases v with
  | object ms => rfl
  | _ => cases h

/-- The names of a path and then those of another are followed in turn. -/
lemma lookup_append_dot (d : Document) (p q : Text) :
    d.lookup (p ++ dot :: q) = (q.splitOn dot).foldl Value.get (d.lookup p) := by
  unfold lookup
  rw [Text.splitOn_append, List.foldl_append]

lemma lookup_of_notMem (h : dot ∉ p) : d.lookup p = d.get p := by
  unfold lookup
  rw [Text.splitOn_of_notMem h]
  rfl

/-- A dotted path of two parts is looked up in two steps: the first part leads to an object, and the
second one is looked up in this as a document; where the first part leads to anything else, or to
nothing, there is nothing at the end.  A path without dots is the name of a property. -/
theorem lookup_dotted (d : Document) (p q : Text) :
    d.lookup (p ++ "." ++ q) =
      (if (d.lookup p).isObject then (ofValue (d.lookup p)).lookup q else .null) ∧
    (dot ∉ p → d.lookup p = d.get p) := by
  have hpath : p ++ "." ++ q = p ++ dot :: q := by simp [Text.ofString]
  refine ⟨?_, lookup_of_notMem⟩
  rw [hpath, lookup_append_dot]
  split_ifs with hobject
  · rw [lookup_ofValue hobject]
  · exact Value.foldl_get_of_isObject_eq_false (Bool.eq_false_iff.mpr hobject)
      (Text.splitOn_ne_nil dot q)

/-- A document with a nameless property, which has a property of its own that is `null` and one that
is no object. -/
def nameless : Document :=
  ⟨[([], .object [("a", .object [([], .null), ("b", .string "c")])])]⟩

theorem nameless_lookup :
    dot ∉ ([] : Text) ∧ nameless.lookup [] = nameless.get [] ∧
      nameless.lookup ".a.b" = (⟨[([], .null), ("b", .string "c")]⟩ : Document).lookup "b" ∧
      nameless.lookup ".a.b" = .string "c" ∧ nameless.lookup ".a..b" = .null ∧
      nameless.lookup ".a.b.b" = .null := by
  have hdot : dot ∉ ([] : Text) := List.not_mem_nil
  obtain ⟨-, hname⟩ := lookup_dotted nameless [] []
  obtain ⟨hobject, -⟩ := lookup_dotted nameless ".a" "b"
  obtain ⟨hnull, -⟩ := lookup_dotted nameless ".a." "b"
  obtain ⟨htext, -⟩ := lookup_dotted nameless ".a.b" "b"
  exact ⟨hdot, hname hdot, hobject, hobject, hnull, htext⟩

end Document

end StructuredData
