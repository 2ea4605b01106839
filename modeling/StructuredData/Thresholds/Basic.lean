import StructuredData.Json.Value

/-!
# Thresholds

The limits that the content, rating and page checks apply.  Lengths and counts are whole numbers;
the three rating limits are numbers of either kind.  Each limit is also a setting with a name, by
which files and environment variables set it.
-/

namespace StructuredData

/-- The limits of the checks. -/
structure Thresholds where
  descriptionMinLength : Int := 50
  descriptionVeryShortLength : Int := 20
  descriptionMaxLength : Int := 160
  nameMaxLength : Int := 100
  headlineMaxLength : Int := 110
  keywordMinLength : Int := 3
  keywordRepeatLimit : Int := 3
  ratingMin : Number := .int 1
  ratingMax : Number := .int 5
  bestRating : Number := .int 5
  maxSchemaTypes : Int := 10
  minSchemaTypes : Int := 2
  faqMinSchemaTypes : Int := 3

/-- The settings, one for each limit. -/
inductive Setting
  | descriptionMinLength
  | descriptionVeryShortLength
  | descriptionMaxLength
  | nameMaxLength
  | headlineMaxLength
  | keywordMinLength
  | keywordRepeatLimit
  | ratingMin
  | ratingMax
  | bestRating
  | maxSchemaTypes
  | minSchemaTypes
  | faqMinSchemaTypes
deriving DecidableEq

namespace Setting

/-- The settings in the order in which they are read, written and reported. -/
def all : List Setting :=
  [.descriptionMinLength, .descriptionVeryShortLength, .descriptionMaxLength, .nameMaxLength,
    .headlineMaxLength, .keywordMinLength, .keywordRepeatLimit, .ratingMin, .ratingMax,
    .bestRating, .maxSchemaTypes, .minSchemaTypes, .faqMinSchemaTypes]

/-- The name of a setting. -/
def name : Setting → Text
  | .descriptionMinLength => "description_min_length"
  | .descriptionVeryShortLength => "description_very_short_length"
  | .descriptionMaxLength => "description_max_length"
  | .nameMaxLength => "name_max_length"
  | .headlineMaxLength => "headline_max_length"
  | .keywordMinLength => "keyword_min_length"
  | .keywordRepeatLimit => "keyword_repeat_limit"
  | .ratingMin => "rating_min"
  | .ratingMax => "rating_max"
  | .bestRating => "best_rating"
  | .maxSchemaTypes => "max_schema_types"
  | .minSchemaTypes => "min_schema_types"
  | .faqMinSchemaTypes => "faq_min_schema_types"

/-- Settings that take whole numbers only. -/
def isWhole : Setting → Bool
  | .ratingMin | .ratingMax | .bestRating => false
  | _ => true

end Setting

namespace Thresholds

/-- The value of a setting. -/
def get (t : Thresholds) : Setting → Number
  | .descriptionMinLength => .int t.descriptionMinLength
  | .descriptionVeryShortLength => .int t.descriptionVeryShortLength
  | .descriptionMaxLength => .int t.descriptionMaxLength
  | .nameMaxLength => .int t.nameMaxLength
  | .headlineMaxLength => .int t.headlineMaxLength
  | .keywordMinLength => .int t.keywordMinLength
  | .keywordRepeatLimit => .int t.keywordRepeatLimit
  | .ratingMin => t.ratingMin
  | .ratingMax => t.ratingMax
  | .bestRating => t.bestRating
  | .maxSchemaTypes => .int t.maxSchemaTypes
  | .minSchemaTypes => .int t.minSchemaTypes
  | .faqMinSchemaTypes => .int t.faqMinSchemaTypes

/-- The thresholds with a whole-number setting changed; the others are left as they are. -/
def setWhole (t : Thresholds) (n : Int) : Setting → Thresholds
  | .descriptionMinLength => { t with descriptionMinLength := n }
  | .descriptionVeryShortLength => { t with descriptionVeryShortLength := n }
  | .descriptionMaxLength => { t with descriptionMaxLength := n }
  | .nameMaxLength => { t with nameMaxLength := n }
  | .headlineMaxLength => { t with headlineMaxLength := n }
  | .keywordMinLength => { t with keywordMinLength := n }
  | .keywordRepeatLimit => { t with keywordRepeatLimit := n }
  | .maxSchemaTypes => { t with maxSchemaTypes := n }
  | .minSchemaTypes => { t with minSchemaTypes := n }
  | .faqMinSchemaTypes => { t with faqMinSchemaTypes := n }
  | .ratingMin | .ratingMax | .bestRating => t

/-- The thresholds with a rating setting changed; the others are left as they are. -/
def setReal (t : Thresholds) (x : Binary64) : Setting → Thresholds
  | .ratingMin => { t with ratingMin := .float x }
  | .ratingMax => { t with ratingMax := .float x }
  | .bestRating => { t with bestRating := .float x }
  | _ => t

/-- The thresholds as a JSON object, one member for each setting. -/
def toValue (t : Thresholds) : Value :=
  .object (Setting.all.map fun s => (s.name, .number (t.get s)))

end Thresholds

end StructuredData
