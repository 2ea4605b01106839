import StructuredData.Text.Pattern
import StructuredData.Json.Value
import StructuredData.Text.Blank
import StructuredData.Text.Digit

/-!
# Formats of property values

The formats that some properties of a document must have: addresses on the web, mail addresses,
dates, telephone numbers, images, the vocabulary's own address, postal codes, prices and
currencies.  Each is a pattern that the whole text must fit, apart from that for images, which may
start anywhere; a line feed at the end of the text is overlooked.

A digit is a decimal digit of any script where a pattern asks for digits by class.  Numbers and
booleans have a format when their JSON text has it, a float that is a whole number being written
as that integer; `null`, arrays and objects have none.
-/

namespace StructuredData

/-- The formats that property values can be asked to have. -/
inductive Format
  | url
  | email
  | date
  | phone
  | imageUrl
  | schemaContext
  | postalCode
  | price
  | currency
deriving DecidableEq

namespace Format

/-- The formats with their names. -/
def named : List (Text × Format) :=
  [("url", .url), ("email", .email), ("date", .date), ("phone", .phone), ("imageUrl", .imageUrl),
    ("schemaContext", .schemaContext), ("postalCode", .postalCode), ("price", .price),
    ("currency", .currency)]

/-- The format of the given name. -/
def ofName? (name : Text) : Option Format :=
  (named.find? fun entry => entry.1 = name).map (·.2)

/-! ## Classes of code points -/

/-- The small letter `a` to `z` that a code point equals when case is ignored: besides the letters
themselves these are the dotted capital and the dotless small I, the long S and the Kelvin sign. -/
def foldCase (c : CodePoint) : CodePoint :=
  if c.isAsciiUpper then CodePoint.ofNat (c.val + 32)
  else if c.val = 0x130 || c.val = 0x131 then 'i'
  else if c.val = 0x17F then 's'
  else if c.val = 0x212A then 'k'
  else c

/-- Any code point but the line feed. -/
def notNewline (c : CodePoint) : Bool := c ≠ Text.newline

/-- What may stand on either side of the sign in a mail address. -/
def isMailPart (c : CodePoint) : Bool := !c.isBlank && c ≠ '@'

/-- What may stand in a postal code: letters in any case, digits, blanks and hyphens. -/
def isPostal (c : CodePoint) : Bool :=
  (foldCase c).isAsciiLower || c.isAsciiDigit || c.isBlank || c = '-'

/-! ## The patterns -/

open Pattern

/-- Exactly so many digits of any script. -/
def digits (n : Nat) : Pattern := .run CodePoint.isDigit n (some n)

/-- The start of a web address. -/
def webScheme : Pattern := .seq (word "http") (.seq (.maybe (char 's')) (word "://"))

/-- The given letters in any case. -/
def anyCase (t : Text) : Pattern := all (t.map fun c => .one fun d => foldCase d = c)

/-- The endings of image names. -/
def imageExtension : Pattern :=
  oneOf (anyCase "jpg") (["jpeg", "png", "gif", "webp", "svg"].map fun s : String => anyCase s)

/-- The pattern of a format. -/
def pattern : Format → Pattern
  | .url => .seq webScheme (.one notNewline)
  | .email =>
    all [.run isMailPart 1 none, char '@', .run isMailPart 1 none, char '.',
      .run isMailPart 1 none, .atEnd]
  | .date =>
    all [digits 4, char '-', digits 2, char '-', digits 2,
      .maybe (all [char 'T', digits 2, char ':', digits 2, char ':', digits 2,
        .maybe (all [char '.', digits 3]), .maybe (char 'Z')]),
      .atEnd]
  | .phone =>
    all [.maybe (char '+'), .one fun c => 49 ≤ c.val && c.val ≤ 57,
      .run CodePoint.isDigit 0 (some 15), .atEnd]
  | .imageUrl =>
    all [char '.', imageExtension, .maybe (all [char '?', .run notNewline 0 none]), .atEnd]
  | .schemaContext => all [webScheme, word "schema.org", .maybe (char '/'), .atEnd]
  | .postalCode => all [.run isPostal 3 (some 10), .atEnd]
  | .price =>
    all [.run CodePoint.isDigit 1 none,
      .maybe (all [char '.', .run CodePoint.isDigit 1 (some 2)]), .atEnd]
  | .currency => all [.run CodePoint.isAsciiUpper 3 (some 3), .atEnd]

/-- Whether the pattern must fit from the start of the text on. -/
def fromStart : Format → Bool
  | .imageUrl => false
  | _ => true

/-- Whether a text has the format. -/
def accepts (f : Format) (t : Text) : Bool :=
  if f.fromStart then f.pattern.fits t else f.pattern.occurs t

end Format

/-! ## Values -/

namespace Value

/-- The text by which a single value is held against a format. -/
def plainText? : Value → Option Text
  | .bool b => some (if b then "true" else "false")
  | .number (.int n) => some (Text.ofInt n)
  | .number (.float x) =>
    match x.toInt? with
    | some n => some (Text.ofInt n)
    | none => some (x.text shownNumber)
  | .string t => some t
  | _ => none

/-- Whether a value has the format. -/
def hasFormat (v : Value) (f : Format) : Bool := v.plainText?.any f.accepts

end Value

end StructuredData
