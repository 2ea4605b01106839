import StructuredData.Check.TypeSpecific
import StructuredData.Text.Blank
import StructuredData.Text.Lowercase

/-!
# Quality of the content

Rules of thumb about the texts of a document: empty values, lengths, a name that repeats the
headline, placeholders that were never replaced, and words repeated too often.

Messages on lengths show the limit.  As in `Check.TypeSpecific`, limits of more than 4300 digits,
which no file and no variable gives, are not considered.
-/

namespace StructuredData

namespace Check

/-- Phrases, in small letters, that mark unfinished content. -/
def placeholderPhrases : List Text :=
  ["lorem ipsum", "sample text", "placeholder", "coming soon", "under construction"]

/-- Whether a text holds one of the placeholder phrases, in letters of either case. -/
def hasPlaceholder (t : Text) : Bool := placeholderPhrases.any fun p => Text.hasPart p t.lower

/-- The words of a text that are longer than a limit, in small letters. -/
def longWords (limit : Int) (t : Text) : List Text :=
  (Text.blankSeparated t.lower).filter fun w => limit < (w.length : Int)

/-- Whether some long word of a text is repeated beyond the limit. -/
def isStuffed (t : Thresholds) (s : Text) : Bool :=
  let ws := longWords t.keywordMinLength s
  ws.any fun w => t.keywordRepeatLimit < (ws.count w : Int)

end Check

namespace Checking

/-- Checks that texts have more than blanks in them. -/
def emptyValues (d : Document) : Checking Unit :=
  d.strings.forM fun (key, t) =>
    recordIf t.strip.isEmpty
      (.warningAt key ("Empty value for property: " ++ key)
        "Provide meaningful content for better SEO")

/-- Checks that the description is neither too short nor too long. -/
def descriptionLength (t : Thresholds) (d : Document) : Checking Unit :=
  match d.someText? "description" with
  | none => pure ()
  | some s =>
    if (s.length : Int) < t.descriptionMinLength then
      record (.warningAt "description" "Description is too short"
        ("Write descriptions with at least " ++ Text.ofInt t.descriptionMinLength ++
          " characters for better SEO"))
    else
      recordIf (t.descriptionMaxLength < (s.length : Int))
        (.warningAt "description" "Description is too long"
          ("Keep descriptions under " ++ Text.ofInt t.descriptionMaxLength ++
            " characters for better display"))

/-- Checks that the name is not too long. -/
def nameLength (t : Thresholds) (d : Document) : Checking Unit :=
  recordIf (Check.isLongerThan d "name" t.nameMaxLength)
    (.warningAt "name" "Name is very long"
      ("Keep names under " ++ Text.ofInt t.nameMaxLength ++ " characters for better display"))

/-- Checks that the headline of a declared article is not too long for search results. -/
def headlineLength (t : Thresholds) (d : Document) (label : Value) : Checking Unit :=
  recordIf (label.isText KnownType.article.name &&
      Check.isLongerThan d "headline" t.headlineMaxLength)
    (.warningAt "headline" "Headline is too long for optimal SEO"
      ("Keep headlines under " ++ Text.ofInt t.headlineMaxLength ++
        " characters for better search display"))

/-- Notes a name that repeats the headline. -/
def duplicateName (d : Document) : Checking Unit :=
  recordIf ((d.someText? "name").any fun t => d.string? "headline" = some t)
    (.note "Name and headline are identical"
      "Consider using different values for name and headline")

/-- Checks for placeholders. -/
def placeholders (d : Document) : Checking Unit :=
  d.strings.forM fun (key, t) =>
    recordIf (Check.hasPlaceholder t)
      (.warningAt key ("Generic placeholder content detected in " ++ key)
        "Replace placeholder content with actual meaningful content")

/-- Checks that the description is not very short. -/
def veryShortDescription (t : Thresholds) (d : Document) : Checking Unit :=
  recordIf ((d.someText? "description").any fun s =>
      (s.length : Int) < t.descriptionVeryShortLength)
    (.warningAt "description" "Description may be too short"
      "Provide more detailed description for better SEO")

/-- Checks that the description does not repeat a word too often. -/
def keywordStuffing (t : Thresholds) (d : Document) : Checking Unit :=
  recordIf ((d.someText? "description").any (Check.isStuffed t))
    (.warningAt "description" "Potential keyword stuffing detected"
      "Avoid repeating the same words too frequently in descriptions")

/-- Checks the content of a document that is declared with a label. -/
def content (t : Thresholds) (d : Document) (label : Value) : Checking Unit := do
  emptyValues d
  descriptionLength t d
  nameLength t d
  headlineLength t d label
  duplicateName d
  placeholders d
  veryShortDescription t d
  keywordStuffing t d

end Checking

end StructuredData
