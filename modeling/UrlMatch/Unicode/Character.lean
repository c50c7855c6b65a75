import UrlMatch.Unicode.CategoryData
import UrlMatch.Unicode.LetterData
import UrlMatch.Unicode.Table

/-!
# Classes of characters

General categories, and the classes of letters, numbers and marks that names and regular
expressions are made of.
-/

namespace UrlMatch.Unicode

/-- The general categories as (short name, long name), in the order of the tags of
`categorySpans`. -/
def categoryNames : List (String × String) := [
  ("Lu", "Uppercase_Letter"), ("Ll", "Lowercase_Letter"), ("Lt", "Titlecase_Letter"),
  ("Lm", "Modifier_Letter"), ("Lo", "Other_Letter"), ("Mn", "Nonspacing_Mark"),
  ("Mc", "Spacing_Mark"), ("Me", "Enclosing_Mark"), ("Nd", "Decimal_Number"),
  ("Nl", "Letter_Number"), ("No", "Other_Number"), ("Pc", "Connector_Punctuation"),
  ("Pd", "Dash_Punctuation"), ("Ps", "Open_Punctuation"), ("Pe", "Close_Punctuation"),
  ("Pi", "Initial_Punctuation"), ("Pf", "Final_Punctuation"), ("Po", "Other_Punctuation"),
  ("Sm", "Math_Symbol"), ("Sc", "Currency_Symbol"), ("Sk", "Modifier_Symbol"),
  ("So", "Other_Symbol"), ("Zs", "Space_Separator"), ("Zl", "Line_Separator"),
  ("Zp", "Paragraph_Separator"), ("Cc", "Control"), ("Cf", "Format"), ("Co", "Private_Use")]

/-- Every assigned code point, tagged with the position of its category. -/
def categorySpans : List Span := spans categoryWords

/-- The spans of the categories with the given short names. -/
def categoriesOf (names : List String) : List Span :=
  categorySpans.filter fun s => ((categoryNames[s.tag]?).map (·.1)).any (· ∈ names)

/-- The code points with the property Alphabetic. -/
def alphabeticSpans : List Span := spans alphabeticWords

/-- The code points with the property Lowercase. -/
def lowercaseSpans : List Span := spans lowercaseWords

/-- The code points with the property Uppercase. -/
def uppercaseSpans : List Span := spans uppercaseWords

/-- The numbers: decimal digits, letter numbers and others. -/
def numberSpans : List Span := categoriesOf ["Nd", "Nl", "No"]

/-- The decimal digits. -/
def digitSpans : List Span := categoriesOf ["Nd"]

/-- The marks: nonspacing, spacing and enclosing. -/
def markSpans : List Span := categoriesOf ["Mn", "Mc", "Me"]

/-- The connector punctuation. -/
def connectorSpans : List Span := categoriesOf ["Pc"]

/-- The blanks, as first and last code point of each run. -/
def blankRanges : List (Nat × Nat) := [
  (0x9, 0xD), (0x20, 0x20), (0x85, 0x85), (0xA0, 0xA0), (0x1680, 0x1680), (0x2000, 0x200A),
  (0x2028, 0x2029), (0x202F, 0x202F), (0x205F, 0x205F), (0x3000, 0x3000)]

/-- An alphabetic character. -/
def isAlphabetic (c : Char) : Bool :=
  c.isAlpha || (128 ≤ c.toNat && holds alphabeticSpans c.toNat)

/-- An alphabetic character or a number. -/
def isAlphanumeric (c : Char) : Bool :=
  c.isAlphanum || (128 ≤ c.toNat && (holds alphabeticSpans c.toNat || holds numberSpans c.toNat))

/-- A combining mark. -/
def isMark (c : Char) : Bool := 128 ≤ c.toNat && holds markSpans c.toNat

/-- White space. -/
def isBlank (c : Char) : Bool := blankRanges.any fun r => r.1 ≤ c.toNat && c.toNat ≤ r.2

/-- A character of a word: alphabetic, a mark, a decimal digit, connector punctuation, or one of
the two joiners. -/
def isWord (c : Char) : Bool :=
  if c.toNat < 128 then c.isAlphanum || c == '_'
  else holds alphabeticSpans c.toNat || holds markSpans c.toNat || holds digitSpans c.toNat ||
    holds connectorSpans c.toNat || c.toNat == 0x200C || c.toNat == 0x200D

end UrlMatch.Unicode
