import UrlMatch.Regex.Property

/-!
# Classes for the segmentation of texts

The values of the properties by which the Unicode standard cuts texts into what a reader takes for
one character, into words and into sentences. A value is combined from categories, scripts and
other properties, as the standard defines it. Most code points have the value Other, which is no
class: it cannot be asked for.
-/

namespace UrlMatch.Regex

namespace CharClass

/-- The joiner that makes one sign of two. -/
def joiner : CharClass := range 0x200D 0x200D

/-- The marks that are a number or part of one. -/
def numberMark : CharClass := diff prependedMark (range 0x70F 0x70F)

/-- The characters of which numbers are made. -/
def numeric : CharClass :=
  unions [categories ["Nd"], range 0x66B 0x66B, range 0x19DA 0x19DA, numberMark]

/-! ### Graphemes -/

/-- The value Extend of Grapheme_Cluster_Break. -/
def graphemeExtender : CharClass := union graphemeExtend emojiModifier

/-- The value Prepend of Grapheme_Cluster_Break: the prepended marks, and the consonants of some
Indic scripts that are written in front of the next one. -/
def graphemePrefix : CharClass :=
  union prependedMark (ofRanges [(0xD4E, 0xD4E), (0x111C2, 0x111C3), (0x113D1, 0x113D1),
    (0x1193F, 0x1193F), (0x11941, 0x11941), (0x11A84, 0x11A89), (0x11D46, 0x11D46),
    (0x11F02, 0x11F02)])

/-- The value SpacingMark of Grapheme_Cluster_Break: two vowel signs, and the spacing marks except
for some of Myanmar, Tai Tham and Ahom. -/
def graphemeSpacing : CharClass :=
  diff (unions [categories ["Mc"], range 0xE33 0xE33, range 0xEB3 0xEB3])
    (union graphemeExtender (ofRanges [(0x102B, 0x102C), (0x1038, 0x1038), (0x1062, 0x1064),
      (0x1067, 0x106D), (0x1083, 0x1083), (0x1087, 0x108C), (0x108F, 0x108F), (0x109A, 0x109C),
      (0x1A61, 0x1A61), (0x1A63, 0x1A64), (0xAA7B, 0xAA7B), (0xAA7D, 0xAA7D),
      (0x11720, 0x11721)]))

/-- The value Control of Grapheme_Cluster_Break. -/
def graphemeControl : CharClass :=
  diff (union (categories ["Zl", "Zp", "Cc", "Cf"]) (inter unassigned defaultIgnorable))
    (unions [ofRanges [(0xA, 0xA), (0xD, 0xD), (0x200C, 0x200D)], prependedMark,
      graphemeExtender])

/-- The Hangul syllables without a final consonant. They stand 28 code points apart. -/
def openSyllable : CharClass :=
  ofRanges ((List.range 399).map fun i => (0xAC00 + 28 * i, 0xAC00 + 28 * i))

/-- The values of Grapheme_Cluster_Break. -/
def graphemeBreaks : List (List String × CharClass) := [
  (["CR"], range 0xD 0xD),
  (["Control", "CN"], graphemeControl),
  (["Extend", "EX"], graphemeExtender),
  (["L"], ofRanges [(0x1100, 0x115F), (0xA960, 0xA97C)]),
  (["LF"], range 0xA 0xA),
  (["LV"], openSyllable),
  (["LVT"], diff (range 0xAC00 0xD7A3) openSyllable),
  (["Prepend", "PP"], graphemePrefix),
  (["Regional_Indicator", "RI"], regionalIndicator),
  (["SpacingMark", "SM"], graphemeSpacing),
  (["T"], ofRanges [(0x11A8, 0x11FF), (0xD7CB, 0xD7FB)]),
  (["V"],
    ofRanges [(0x1160, 0x11A7), (0xD7B0, 0xD7C6), (0x16D63, 0x16D63), (0x16D67, 0x16D6A)]),
  (["ZWJ"], joiner)]

/-! ### Words -/

/-- The value Extend of Word_Break. -/
def wordExtender : CharClass := unions [graphemeExtend, categories ["Mc"], emojiModifier]

/-- The value Format of Word_Break. -/
def wordFormat : CharClass :=
  diff (categories ["Cf"]) (unions [range 0x200B 0x200D, prependedMark, graphemeExtend])

/-- The value Katakana of Word_Break. -/
def katakana : CharClass :=
  union (scripts ["Kana"]) (ofRanges [(0x3031, 0x3035), (0x309B, 0x309C), (0x30A0, 0x30A0),
    (0x30FC, 0x30FC), (0xFF70, 0xFF70)])

/-- The value Hebrew_Letter of Word_Break. -/
def hebrewLetter : CharClass := inter (scripts ["Hebr"]) (categories ["Lo"])

/-- The scripts that mark no words, so that their letters tell nothing about the ends of words. -/
def unmarkedScripts : List String :=
  ["Ahom", "Khmr", "Lana", "Laoo", "Mymr", "Tale", "Talu", "Tavt", "Thai"]

/-- The value ALetter of Word_Break: letters of the scripts that mark words, and signs that are
part of words. -/
def wordLetter : CharClass :=
  diff (union alphabetic (ofRanges [(0xB8, 0xB8), (0x2C2, 0x2C5), (0x2D2, 0x2D7), (0x2DE, 0x2DF),
      (0x2E5, 0x2EB), (0x2ED, 0x2ED), (0x2EF, 0x2FF), (0x55A, 0x55C), (0x55E, 0x55E),
      (0x58A, 0x58A), (0x5F3, 0x5F3), (0x70F, 0x70F), (0xA708, 0xA716), (0xA720, 0xA721),
      (0xA789, 0xA78A), (0xAB5B, 0xAB5B)]))
    (unions [ideographic, katakana, scripts ("Hira" :: unmarkedScripts), wordExtender,
      hebrewLetter])

/-- The values of Word_Break. -/
def wordBreaks : List (List String × CharClass) := [
  (["ALetter", "LE"], wordLetter),
  (["CR"], range 0xD 0xD),
  (["Double_Quote", "DQ"], range 0x22 0x22),
  (["Extend"], wordExtender),
  (["ExtendNumLet", "EX"], union (categories ["Pc"]) (range 0x202F 0x202F)),
  (["Format", "FO"], wordFormat),
  (["Hebrew_Letter", "HL"], hebrewLetter),
  (["Katakana", "KA"], katakana),
  (["LF"], range 0xA 0xA),
  (["MidLetter", "ML"], midLetter),
  (["MidNum", "MN"],
    ofRanges [(0x2C, 0x2C), (0x3B, 0x3B), (0x37E, 0x37E), (0x589, 0x589), (0x60C, 0x60D),
      (0x66C, 0x66C), (0x7F8, 0x7F8), (0x2044, 0x2044), (0xFE50, 0xFE50), (0xFE54, 0xFE54),
      (0xFF0C, 0xFF0C), (0xFF1B, 0xFF1B)]),
  (["MidNumLet", "MB"], midNumLetter),
  (["Newline", "NL"], ofRanges [(0xB, 0xC), (0x85, 0x85), (0x2028, 0x2029)]),
  (["Numeric", "NU"], numeric),
  (["Regional_Indicator", "RI"], regionalIndicator),
  (["Single_Quote", "SQ"], range 0x27 0x27),
  (["WSegSpace"],
    diff (categories ["Zs"]) (ofRanges [(0xA0, 0xA0), (0x2007, 0x2007), (0x202F, 0x202F)])),
  (["ZWJ"], joiner)]

/-! ### Sentences -/

/-- The value Sep of Sentence_Break. -/
def sentenceSeparator : CharClass := ofRanges [(0x85, 0x85), (0x2028, 0x2029)]

/-- The value Extend of Sentence_Break. -/
def sentenceExtender : CharClass := unions [graphemeExtend, categories ["Mc"], joiner]

/-- The value Format of Sentence_Break. -/
def sentenceFormat : CharClass :=
  diff (categories ["Cf"]) (unions [range 0x200C 0x200D, numberMark, graphemeExtend])

/-- The value Lower of Sentence_Break. Georgian has no capitals at the start of sentences. -/
def sentenceLower : CharClass :=
  diff lowercase (union graphemeExtend (ofRanges [(0x10D0, 0x10FA), (0x10FD, 0x10FF)]))

/-- The value Upper of Sentence_Break. Georgian has no capitals at the start of sentences. -/
def sentenceUpper : CharClass :=
  diff (union uppercase (categories ["Lt"])) (ofRanges [(0x1C90, 0x1CBA), (0x1CBD, 0x1CBF)])

/-- The value ATerm of Sentence_Break: the points, which do not always end a sentence. -/
def point : CharClass :=
  ofRanges [(0x2E, 0x2E), (0x2024, 0x2024), (0xFE52, 0xFE52), (0xFF0E, 0xFF0E)]

/-- The values of Sentence_Break. -/
def sentenceBreaks : List (List String × CharClass) := [
  (["ATerm", "AT"], point),
  (["CR"], range 0xD 0xD),
  (["Close", "CL"],
    union (categories ["Ps", "Pe", "Pi", "Pf"]) (ofRanges [(0x22, 0x22), (0x27, 0x27),
      (0x275B, 0x2760), (0x2E00, 0x2E01), (0x2E06, 0x2E08), (0x2E0B, 0x2E0B),
      (0x1F676, 0x1F678)])),
  (["Extend", "EX"], sentenceExtender),
  (["Format", "FO"], sentenceFormat),
  (["LF"], range 0xA 0xA),
  (["Lower", "LO"], sentenceLower),
  (["Numeric", "NU"], union numeric (range 0x66C 0x66C)),
  (["OLetter", "LE"],
    diff (union alphabetic (range 0x5F3 0x5F3))
      (unions [sentenceLower, sentenceUpper, sentenceExtender])),
  (["SContinue", "SC"],
    ofRanges [(0x2C, 0x2D), (0x3A, 0x3B), (0x37E, 0x37E), (0x55D, 0x55D), (0x60C, 0x60D),
      (0x7F8, 0x7F8), (0x1802, 0x1802), (0x1808, 0x1808), (0x2013, 0x2014), (0x3001, 0x3001),
      (0xFE10, 0xFE11), (0xFE13, 0xFE14), (0xFE31, 0xFE32), (0xFE50, 0xFE51), (0xFE54, 0xFE55),
      (0xFE58, 0xFE58), (0xFE63, 0xFE63), (0xFF0C, 0xFF0D), (0xFF1A, 0xFF1B), (0xFF64, 0xFF64)]),
  (["STerm", "ST"], diff sentenceTerminal point),
  (["Sep", "SE"], sentenceSeparator),
  (["Sp", "SP"], diff whiteSpace (unions [sentenceSeparator, range 0xA 0xA, range 0xD 0xD])),
  (["Upper", "UP"], sentenceUpper)]

end CharClass

end UrlMatch.Regex
